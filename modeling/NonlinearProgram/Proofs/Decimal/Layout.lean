import NonlinearProgram.Decimal.Layout
import Mathlib.Tactic.Common
import Mathlib.Data.List.Basic

/-!
# The characters of written numbers

A written number is made of digits, letters, signs and a point. It starts with a letter exactly
where it is the name of what has no digits and no sign: not a number, or the positive infinity.
-/

namespace NonlinearProgram.Layout

def isNumeral (c : Char) : Bool := c.isAlphanum || c = '.' || c = '+' || c = '-'

def Numeral (text : List Char) : Prop := ∀ c ∈ text, isNumeral c = true

structure Digits (text : List Char) : Prop where
  nonempty : text ≠ []
  digits : ∀ c ∈ text, c.isDigit = true

def Leads (text : List Char) : Prop := ∃ c rest, text = c :: rest ∧ c.isDigit = true

theorem isNumeral_of_isDigit {c : Char} (h : c.isDigit = true) : isNumeral c = true := by
  simp [isNumeral, Char.isAlphanum, h]

theorem digits_toDigits (n : Nat) : Digits (Nat.toDigits 10 n) :=
  ⟨Nat.toDigits_ne_nil, fun _ hc => Nat.isDigit_of_mem_toDigits (by decide) (by decide) hc⟩

namespace Digits

variable {text : List Char}

theorem numeral (h : Digits text) : Numeral text := fun c hc => isNumeral_of_isDigit (h.digits c hc)

theorem leads (h : Digits text) (rest : List Char) : Leads (text ++ rest) := by
  cases text with
  | nil => exact absurd rfl h.nonempty
  | cons c text => exact ⟨c, text ++ rest, rfl, h.digits c (by simp)⟩

theorem take (h : Digits text) (count : Nat) : Digits (text.take (count + 1)) := by
  refine ⟨?_, fun c hc => h.digits c (List.mem_of_mem_take hc)⟩
  simpa using h.nonempty

theorem drop_numeral (h : Digits text) (count : Nat) : Numeral (text.drop count) :=
  fun c hc => h.numeral c (List.mem_of_mem_drop hc)

theorem stripped (h : Digits text) : Digits (stripped text) := by
  unfold Layout.stripped
  split
  · exact ⟨by simp, by simp⟩
  · next hne =>
      refine ⟨hne, fun c hc => h.digits c ?_⟩
      exact List.mem_reverse.1 ((List.dropWhile_sublist _).mem (List.mem_reverse.1 hc))

end Digits

theorem numeral_append {a b : List Char} (ha : Numeral a) (hb : Numeral b) : Numeral (a ++ b) := by
  intro c hc
  rcases List.mem_append.1 hc with hc | hc
  · exact ha c hc
  · exact hb c hc

theorem numeral_cons {c : Char} {text : List Char} (hc : isNumeral c = true) (h : Numeral text) :
    Numeral (c :: text) := by
  intro d hd
  rcases List.mem_cons.1 hd with rfl | hd
  · exact hc
  · exact h d hd

theorem numeral_zeros (count : Nat) : Numeral (zeros count) := by
  intro c hc
  rw [List.eq_of_mem_replicate hc]
  rfl

theorem numeral_writePower (power : Int) : Numeral (writePower power) := by
  unfold writePower
  refine numeral_cons rfl (numeral_append (numeral_cons ?_ (numeral_zeros _))
    (digits_toDigits _).numeral)
  split <;> rfl

section Written

variable {digits : List Char}

theorem writePositional_written (h : Digits digits) (pointed : Bool) (power : Int) :
    Numeral (writePositional pointed digits power) ∧
      Leads (writePositional pointed digits power) := by
  unfold writePositional
  split
  · exact ⟨numeral_cons rfl (numeral_cons rfl (numeral_append (numeral_zeros _) h.numeral)),
      ⟨'0', _, rfl, rfl⟩⟩
  · dsimp only
    split
    · rw [List.append_assoc]
      refine ⟨numeral_append h.numeral (numeral_append (numeral_zeros _) ?_), h.leads _⟩
      cases pointed
      · simp [Numeral]
      · exact numeral_cons rfl (numeral_cons rfl (by simp [Numeral]))
    · exact ⟨numeral_append (h.take _).numeral (numeral_cons rfl (h.drop_numeral _)),
        (h.take _).leads _⟩

theorem writeExponential_written (h : Digits digits) (power : Int) :
    Numeral (writeExponential digits power) ∧ Leads (writeExponential digits power) := by
  match digits, h with
  | [], h => exact absurd rfl h.nonempty
  | [first], h =>
      have hfirst := h.digits first (by simp)
      exact ⟨numeral_cons (isNumeral_of_isDigit hfirst) (numeral_writePower power),
        first, _, rfl, hfirst⟩
  | first :: second :: rest, h =>
      have hfirst := h.digits first (by simp)
      have hrest : Numeral (second :: rest) := fun c hc => h.numeral c (by simp [hc])
      exact ⟨numeral_cons (isNumeral_of_isDigit hfirst)
        (numeral_cons rfl (numeral_append hrest (numeral_writePower power))), first, _, rfl, hfirst⟩

theorem write_written (layout : Layout) (d : Decimal) :
    Numeral (layout.write d) ∧ Leads (layout.write d) := by
  have hall := digits_toDigits d.digits
  have hdigits : Digits (if layout.padded then Nat.toDigits 10 d.digits
      else stripped (Nat.toDigits 10 d.digits)) := by
    split
    · exact hall
    · exact hall.stripped
  unfold write
  extract_lets all power digits
  split_ifs
  · exact writePositional_written hdigits _ _
  · exact writeExponential_written hdigits _

end Written

end NonlinearProgram.Layout

namespace NonlinearProgram

def Reading.isNamed : Reading → Bool
  | .notANumber | .infinite false => true
  | .infinite true | .finite .. => false

namespace Scalar

variable {α : Type} [Scalar α]

open Layout

/-- A number is written with a letter first where it has a name, and else with a digit or a sign. -/
theorem general_written (count : Nat) (x : α) :
    ∃ c rest, (general count x).toList = c :: rest ∧ Numeral (c :: rest) ∧
      (c.isLower = true ∧ (reading x).isNamed = true ∨
        (c.isDigit = true ∨ c = '-') ∧ (reading x).isNamed = false) := by
  unfold general
  cases reading x with
  | notANumber =>
      exact ⟨'n', ['a', 'n'], by simp [writeReading], by simp [Numeral, isNumeral], .inl ⟨rfl, rfl⟩⟩
  | infinite negative =>
      rw [writeReading, signed, String.toList_ofList]
      cases negative with
      | false => exact ⟨'i', ['n', 'f'], rfl, by simp [Numeral, isNumeral], .inl ⟨rfl, rfl⟩⟩
      | true =>
          exact ⟨'-', ['i', 'n', 'f'], rfl, by simp [Numeral, isNumeral], .inr ⟨.inr rfl, rfl⟩⟩
  | finite negative numerator denominator =>
      rw [writeReading, signed, String.toList_ofList]
      have hwritten : Numeral (if numerator = 0 then ['0'] else (Layout.general count).write
          (Decimal.significant numerator denominator count)) ∧
          Leads (if numerator = 0 then ['0'] else (Layout.general count).write
            (Decimal.significant numerator denominator count)) := by
        split_ifs
        · exact ⟨numeral_cons rfl (by simp [Numeral]), '0', [], rfl, rfl⟩
        · exact write_written _ _
      obtain ⟨hnumeral, c, rest, heq, hc⟩ := hwritten
      rw [heq] at hnumeral ⊢
      cases negative with
      | false => exact ⟨c, rest, rfl, hnumeral, .inr ⟨.inl hc, rfl⟩⟩
      | true => exact ⟨'-', c :: rest, rfl, numeral_cons rfl hnumeral, .inr ⟨.inr rfl, rfl⟩⟩

end Scalar

end NonlinearProgram
