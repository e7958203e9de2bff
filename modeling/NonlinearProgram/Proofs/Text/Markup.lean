import Mathlib.Algebra.GroupWithZero.Nat
import Mathlib.Data.List.Basic
import Mathlib.Tactic.Common
import NonlinearProgram.Text.Markup

/-!
# Reading markup

Markup is read from the left. A tag with an even run of backslashes before it is a tag, and half of
the run is shown; with an odd run its bracket is text. What is written by `escapeTags` is read as
the text it was made from, up to the backslashes that text ends in: these are read with whatever
comes next.
-/

namespace NonlinearProgram.Text

/-- What markup is read as: characters that are shown, and tags. -/
inductive Token where
  | shown (c : Char)
  | tag (text : List Char)

def shownSlashes (count : Nat) : List Token := List.replicate count (.shown '\\')

/-- The tokens of a markup text. The first argument counts the backslashes just read; before a tag
they are halved, and an odd one takes the meaning of the tag away. -/
def readTags (slashes : Nat) (text : List Char) : List Token :=
  match text with
  | [] => shownSlashes slashes
  | c :: rest =>
    if c = '\\' then readTags (slashes + 1) rest
    else match _found : tag? (c :: rest) with
      | some (tag, after) =>
        shownSlashes (slashes / 2) ++ (if slashes % 2 = 0 then [.tag tag] else tag.map .shown)
          ++ readTags 0 after
      | none => shownSlashes slashes ++ .shown c :: readTags 0 rest
termination_by text.length
decreasing_by
  · simp
  · exact tag?_length _found
  · simp

def readMarkup (markup : String) : List Token := readTags 0 markup.toList

def shownText (tokens : List Token) : String :=
  String.ofList (tokens.filterMap fun
    | .shown c => some c
    | .tag _ => none)

def tagsOf (tokens : List Token) : List String :=
  tokens.filterMap fun
    | .shown _ => none
    | .tag text => some (String.ofList text)

@[simp] theorem tagsOf_append (a b : List Token) : tagsOf (a ++ b) = tagsOf a ++ tagsOf b :=
  List.filterMap_append

@[simp] theorem shownText_append (a b : List Token) :
    shownText (a ++ b) = shownText a ++ shownText b := by
  simp [shownText]

@[simp] theorem shownText_nil : shownText [] = "" := rfl

@[simp] theorem tagsOf_nil : tagsOf [] = [] := rfl

@[simp] theorem shownText_tag (text : List Char) (rest : List Token) :
    shownText (.tag text :: rest) = shownText rest := rfl

@[simp] theorem tagsOf_tag (text : List Char) (rest : List Token) :
    tagsOf (.tag text :: rest) = String.ofList text :: tagsOf rest := rfl

@[simp] theorem tagsOf_map_shown (text : List Char) : tagsOf (text.map .shown) = [] := by
  simp [tagsOf]

@[simp] theorem shownText_map_shown (text : List Char) :
    shownText (text.map .shown) = String.ofList text := by
  simp [shownText, List.filterMap_map]

/-- A text between brackets: neither of them stands in it. -/
def Unbracketed (text : List Char) : Prop := ∀ c ∈ text, c ≠ '[' ∧ c ≠ ']'

theorem Unbracketed.append {a b : List Char} (ha : Unbracketed a) (hb : Unbracketed b) :
    Unbracketed (a ++ b) :=
  List.forall_mem_append.2 ⟨ha, hb⟩

theorem tagBody?_append {inner : List Char} (h : Unbracketed inner) (rest : List Char) :
    tagBody? (inner ++ ']' :: rest) = some (inner ++ [']'], rest) := by
  induction inner with
  | nil => simp [tagBody?]
  | cons c inner ih =>
      have hc := h c (by simp)
      simp [tagBody?, hc.1, hc.2, ih fun d hd => h d (by simp [hd])]

theorem exists_of_tagBody? {text body after : List Char} (h : tagBody? text = some (body, after)) :
    ∃ inner, Unbracketed inner ∧ body = inner ++ [']'] ∧ text = body ++ after := by
  induction text generalizing body after with
  | nil => simp [tagBody?] at h
  | cons c text ih =>
      unfold tagBody? at h
      split at h
      · next hc =>
          obtain ⟨rfl, rfl⟩ : [c] = body ∧ text = after := by simpa using h
          exact ⟨[], by simp [Unbracketed], by simp [hc], rfl⟩
      · split at h
        · cases h
        · next hclose hopen =>
            obtain ⟨⟨body', after'⟩, hbody, heq⟩ := Option.map_eq_some_iff.1 h
            obtain ⟨inner, hinner, rfl, rfl⟩ := ih hbody
            obtain ⟨rfl, rfl⟩ : c :: (inner ++ [']']) = body ∧ after' = after := by simpa using heq
            refine ⟨c :: inner, fun d hd => ?_, rfl, rfl⟩
            rcases List.mem_cons.1 hd with rfl | hd
            · exact ⟨hopen, hclose⟩
            · exact hinner d hd

/-- A tag: between its brackets stands an opening character, and no bracket. -/
inductive IsTag : List Char → Prop
  | intro {c : Char} {inner : List Char} (hc : opensTag c = true) (h : Unbracketed inner) :
      IsTag ('[' :: c :: inner ++ [']'])

theorem tag?_append {tag : List Char} (h : IsTag tag) (rest : List Char) :
    tag? (tag ++ rest) = some (tag, rest) := by
  obtain ⟨hc, hinner⟩ := h
  simp [tag?, hc, tagBody?_append hinner]

theorem isTag_of_tag? {text tag after : List Char} (h : tag? text = some (tag, after)) :
    IsTag tag ∧ text = tag ++ after := by
  unfold tag? at h
  split at h
  · split at h
    · next hc =>
        obtain ⟨⟨body, after'⟩, hbody, heq⟩ := Option.map_eq_some_iff.1 h
        obtain ⟨inner, hinner, rfl, rfl⟩ := exists_of_tagBody? hbody
        cases heq
        exact ⟨⟨hc, hinner⟩, rfl⟩
    · cases h
  · cases h

theorem tag?_of_ne {c : Char} (hc : c ≠ '[') (rest : List Char) : tag? (c :: rest) = none := by
  simp [tag?, hc]

theorem opensTag_of_isLower {c : Char} (h : c.isLower = true) : opensTag c = true := by
  have hbounds : (decide (c.val ≥ 'a'.val) && decide (c.val ≤ 'z'.val)) = true := h
  rw [Bool.and_eq_true, decide_eq_true_eq, decide_eq_true_eq] at hbounds
  simp only [opensTag, Bool.or_eq_true, Bool.and_eq_true, decide_eq_true_eq]
  exact .inl (.inl (.inl ⟨hbounds.1, hbounds.2⟩))

theorem opensTag_of_isDigit {c : Char} (h : c.isDigit = true) : opensTag c = false := by
  rw [Bool.eq_false_iff]
  intro hopen
  simp only [Char.isDigit, Bool.and_eq_true, decide_eq_true_eq] at h
  simp only [opensTag, Bool.or_eq_true, Bool.and_eq_true, decide_eq_true_eq] at hopen
  obtain ((⟨hlow, -⟩ | rfl) | rfl) | rfl := hopen
  · exact absurd (UInt32.le_trans hlow h.2) (by decide)
  all_goals exact absurd h (by decide)

@[simp] theorem readTags_nil (slashes : Nat) : readTags slashes [] = shownSlashes slashes := by
  rw [readTags]

theorem readTags_replicate (slashes count : Nat) (rest : List Char) :
    readTags slashes (List.replicate count '\\' ++ rest) = readTags (slashes + count) rest := by
  induction count generalizing slashes with
  | zero => rfl
  | succ count ih =>
      rw [List.replicate_succ, List.cons_append, readTags, if_pos rfl, ih]
      congr 1
      omega

theorem readTags_tag {tag : List Char} (h : IsTag tag) (slashes : Nat) (rest : List Char) :
    readTags slashes (tag ++ rest) = shownSlashes (slashes / 2)
      ++ (if slashes % 2 = 0 then [.tag tag] else tag.map .shown) ++ readTags 0 rest := by
  have hfound := tag?_append h rest
  obtain ⟨hc, hinner⟩ := h
  rw [List.cons_append, List.cons_append, readTags, if_neg (by decide)]
  split
  · next found =>
      cases found.symm.trans hfound
      rfl
  · next found => cases found.symm.trans hfound

theorem readTags_cons {c : Char} {rest : List Char} (hc : c ≠ '\\') (h : tag? (c :: rest) = none)
    (slashes : Nat) :
    readTags slashes (c :: rest) = shownSlashes slashes ++ .shown c :: readTags 0 rest := by
  rw [readTags, if_neg hc]
  split
  · next found => cases found.symm.trans h
  · rfl

theorem escapeTags_tag {tag : List Char} (h : IsTag tag) (slashes : Nat) (rest : List Char) :
    escapeTags slashes (tag ++ rest)
      = List.replicate (2 * slashes + 1) '\\' ++ tag ++ escapeTags 0 rest := by
  have hfound := tag?_append h rest
  obtain ⟨hc, hinner⟩ := h
  rw [List.cons_append, List.cons_append, escapeTags, if_neg (by decide)]
  split
  · next found =>
      cases found.symm.trans hfound
      rfl
  · next found => cases found.symm.trans hfound

theorem escapeTags_cons {c : Char} {rest : List Char} (hc : c ≠ '\\') (h : tag? (c :: rest) = none)
    (slashes : Nat) :
    escapeTags slashes (c :: rest) = List.replicate slashes '\\' ++ c :: escapeTags 0 rest := by
  rw [escapeTags, if_neg hc]
  split
  · next found => cases found.symm.trans h
  · rfl

/-- The texts one step at a time, as reader and writer take them: a backslash, a tag, or a character
that starts none. -/
theorem induction_steps {motive : Nat → List Char → Prop} (nil : ∀ slashes, motive slashes [])
    (backslash : ∀ slashes rest, motive (slashes + 1) rest → motive slashes ('\\' :: rest))
    (tag : ∀ slashes tag rest, IsTag tag → motive 0 rest → motive slashes (tag ++ rest))
    (cons : ∀ slashes c rest, c ≠ '\\' → tag? (c :: rest) = none → motive 0 rest →
      motive slashes (c :: rest))
    (slashes : Nat) (text : List Char) : motive slashes text := by
  fun_induction escapeTags slashes text with
  | case1 slashes => exact nil slashes
  | case2 slashes rest ih => exact backslash slashes rest ih
  | case3 slashes c rest hc found after hfound ih =>
      obtain ⟨htag, heq⟩ := isTag_of_tag? hfound
      rw [heq]
      exact tag slashes found after htag ih
  | case4 slashes c rest hc hfound ih => exact cons slashes c rest hc hfound ih

def trailing (slashes : Nat) : List Char → Nat
  | [] => slashes
  | c :: rest => if c = '\\' then trailing (slashes + 1) rest else trailing 0 rest

def settled (slashes : Nat) : List Char → List Char
  | [] => []
  | c :: rest =>
    if c = '\\' then settled (slashes + 1) rest
    else List.replicate slashes '\\' ++ c :: settled 0 rest

theorem settled_append_trailing (slashes : Nat) (text : List Char) :
    settled slashes text ++ List.replicate (trailing slashes text) '\\'
      = List.replicate slashes '\\' ++ text := by
  induction text generalizing slashes with
  | nil => simp [settled, trailing]
  | cons c rest ih =>
      by_cases hc : c = '\\'
      · simp [settled, trailing, hc, ih, List.replicate_succ']
      · simp [settled, trailing, hc, ih]

theorem getLast?_settled (slashes : Nat) (text : List Char) :
    (settled slashes text).getLast? ≠ some '\\' := by
  induction text generalizing slashes with
  | nil => simp [settled]
  | cons c rest ih =>
      by_cases hc : c = '\\'
      · simpa [settled, hc] using ih (slashes + 1)
      · cases hrest : (settled 0 rest).getLast? with
        | none => simp [settled, hc, List.getLast?_cons, hrest]
        | some d =>
            have := hrest ▸ ih 0
            simpa [settled, hc, List.getLast?_cons, hrest] using this

theorem trailing_replicate (slashes count : Nat) (rest : List Char) :
    trailing slashes (List.replicate count '\\' ++ rest) = trailing (slashes + count) rest := by
  induction count generalizing slashes with
  | zero => rfl
  | succ count ih =>
      rw [List.replicate_succ, List.cons_append, trailing, if_pos rfl, ih]
      congr 1
      omega

theorem trailing_append {c : Char} (hc : c ≠ '\\') (slashes : Nat) (text rest : List Char) :
    trailing slashes (text ++ c :: rest) = trailing 0 rest := by
  induction text generalizing slashes with
  | nil => simp [trailing, hc]
  | cons d text ih =>
      rw [List.cons_append, trailing]
      split
      · exact ih (slashes + 1)
      · exact ih 0

theorem settled_append {c : Char} (hc : c ≠ '\\') (slashes : Nat) (text rest : List Char) :
    settled slashes (text ++ c :: rest)
      = List.replicate slashes '\\' ++ text ++ c :: settled 0 rest := by
  induction text generalizing slashes with
  | nil => simp [settled, hc]
  | cons d text ih =>
      rw [List.cons_append, settled]
      split
      · next hd => simp [ih, hd, List.replicate_succ']
      · simp [ih]

theorem trailing_tag {tag : List Char} (h : IsTag tag) (slashes : Nat) (rest : List Char) :
    trailing slashes (tag ++ rest) = trailing 0 rest := by
  obtain ⟨-, -⟩ := h
  rw [List.append_assoc]
  exact trailing_append (by decide) slashes _ rest

theorem settled_tag {tag : List Char} (h : IsTag tag) (slashes : Nat) (rest : List Char) :
    settled slashes (tag ++ rest) = List.replicate slashes '\\' ++ tag ++ settled 0 rest := by
  obtain ⟨-, -⟩ := h
  rw [List.append_assoc, List.singleton_append, settled_append (by decide)]
  simp

theorem trailing_escapeTags (slashes : Nat) (text : List Char) :
    trailing 0 (escapeTags slashes text) = trailing slashes text := by
  induction slashes, text using induction_steps with
  | nil slashes => simpa [escapeTags, trailing] using trailing_replicate 0 slashes []
  | backslash slashes rest ih => simpa [escapeTags, trailing] using ih
  | tag slashes tag rest htag ih =>
      rw [escapeTags_tag htag, trailing_tag htag, List.append_assoc, trailing_replicate,
        trailing_tag htag, ih]
  | cons slashes c rest hc hnone ih =>
      rw [escapeTags_cons hc hnone, trailing_append hc, ih]
      simp [trailing, hc]

theorem guardEnd_eq (text : List Char) :
    guardEnd text = text ++ if trailing 0 text = 1 then ['\\'] else [] := by
  have htext := settled_append_trailing 0 text
  have hlast := getLast?_settled 0 text
  generalize settled 0 text = front at htext hlast
  generalize trailing 0 text = count at htext
  obtain rfl : front ++ List.replicate count '\\' = text := by simpa using htext
  match count with
  | 0 =>
      unfold guardEnd
      split
      · next h => simp_all [← List.head?_reverse]
      · next h => simp_all [← List.head?_reverse]
      · simp
  | 1 =>
      rw [← List.head?_reverse] at hlast
      unfold guardEnd
      split
      · next h => simp_all
      · simp
      · next h => simp_all
  | count + 2 =>
      unfold guardEnd
      rw [List.reverse_append, List.reverse_replicate, List.replicate_succ, List.replicate_succ]
      simp

/-- What follows a text without completing a tag the text leaves open. -/
structure Inert (rest : List Char) : Prop where
  closed : tagBody? rest = none
  unopened : ∀ c ∈ rest.head?, opensTag c = false

theorem Inert.nil : Inert [] := ⟨rfl, by simp⟩

theorem Inert.bracket (rest : List Char) : Inert ('[' :: rest) :=
  ⟨by simp [tagBody?], by simp [opensTag]⟩

theorem Inert.backslash {rest : List Char} (h : Inert rest) : Inert ('\\' :: rest) :=
  ⟨by simp [tagBody?, h.closed], by simp [opensTag]⟩

theorem tagBody?_replicate (count : Nat) {rest : List Char} (h : tagBody? rest = none) :
    tagBody? (List.replicate count '\\' ++ rest) = none := by
  induction count with
  | zero => exact h
  | succ count ih => simp [List.replicate_succ, tagBody?, ih]

theorem tagBody?_escapeTags {rest : List Char} (hrest : Inert rest) (slashes : Nat)
    (text : List Char) (h : tagBody? text = none) :
    tagBody? (escapeTags slashes text ++ rest) = none := by
  induction slashes, text using induction_steps with
  | nil slashes =>
      rw [escapeTags]
      exact tagBody?_replicate slashes hrest.closed
  | backslash slashes text ih =>
      rw [escapeTags, if_pos rfl]
      exact ih (by simpa [tagBody?] using h)
  | tag slashes tag text htag ih =>
      rw [escapeTags_tag htag, List.append_assoc, List.append_assoc]
      obtain ⟨-, -⟩ := htag
      exact tagBody?_replicate _ (by simp [tagBody?])
  | cons slashes c text hc hnone ih =>
      rw [escapeTags_cons hc hnone, List.append_assoc]
      refine tagBody?_replicate _ ?_
      unfold tagBody? at h
      rw [List.cons_append, tagBody?]
      split at h
      · cases h
      · next hclose =>
          rw [if_neg hclose]
          split at h
          · next hopen => rw [if_pos hopen]
          · next hopen =>
              rw [if_neg hopen, ih (Option.map_eq_none_iff.1 h)]
              rfl

theorem exists_escapeTags_eq_cons (slashes : Nat) (text : List Char) (h : slashes ≠ 0) :
    ∃ more, escapeTags slashes text = '\\' :: more := by
  induction slashes, text using induction_steps with
  | nil slashes =>
      obtain ⟨count, rfl⟩ := Nat.exists_eq_succ_of_ne_zero h
      exact ⟨_, by rw [escapeTags, List.replicate_succ]⟩
  | backslash slashes text ih =>
      rw [escapeTags, if_pos rfl]
      exact ih (Nat.succ_ne_zero slashes)
  | tag slashes tag text htag ih =>
      exact ⟨_, by rw [escapeTags_tag htag, List.replicate_succ, List.append_assoc]; rfl⟩
  | cons slashes c text hc hnone ih =>
      obtain ⟨count, rfl⟩ := Nat.exists_eq_succ_of_ne_zero h
      exact ⟨_, by rw [escapeTags_cons hc hnone, List.replicate_succ]; rfl⟩

theorem tag?_escapeTags {rest : List Char} (hrest : Inert rest) {c : Char} {text : List Char}
    (h : tag? (c :: text) = none) : tag? (c :: (escapeTags 0 text ++ rest)) = none := by
  by_cases hc : c = '['
  swap
  · exact tag?_of_ne hc _
  subst hc
  have hunopened : ∀ {d more}, opensTag d = false → tag? ('[' :: d :: more) = none := by
    intro d more hd
    simp [tag?, hd]
  match text with
  | [] =>
      cases rest with
      | nil => simp [escapeTags, tag?]
      | cons d rest => simpa [escapeTags] using hunopened (hrest.unopened d rfl)
  | d :: text =>
      by_cases hslash : d = '\\'
      · obtain ⟨more, hmore⟩ := exists_escapeTags_eq_cons 1 text (by decide)
        rw [hslash, escapeTags, if_pos rfl, hmore]
        exact hunopened rfl
      cases hfound : tag? (d :: text) with
      | some found =>
          obtain ⟨tag, after⟩ := found
          obtain ⟨htag, heq⟩ := isTag_of_tag? hfound
          rw [heq, escapeTags_tag htag]
          exact hunopened rfl
      | none =>
          rw [escapeTags_cons hslash hfound]
          by_cases hd : opensTag d = true
          · have hbody : tagBody? text = none := by simpa [tag?, hd] using h
            simp [tag?, hd, tagBody?_escapeTags hrest 0 text hbody]
          · exact hunopened (by simpa using hd)

/-- Escaped text is read as the text it was made from; the backslashes at its end are read with what
follows. -/
theorem readTags_escapeTags {rest : List Char} (hrest : Inert rest) (slashes : Nat)
    (text : List Char) :
    readTags 0 (escapeTags slashes text ++ rest)
      = (settled slashes text).map .shown ++ readTags (trailing slashes text) rest := by
  induction slashes, text using induction_steps with
  | nil slashes => simpa [escapeTags, settled, trailing] using readTags_replicate 0 slashes rest
  | backslash slashes text ih => simpa [escapeTags, settled, trailing] using ih
  | tag slashes tag text htag ih =>
      have hodd : (0 + (2 * slashes + 1)) % 2 ≠ 0 := by omega
      have hhalf : (0 + (2 * slashes + 1)) / 2 = slashes := by omega
      rw [escapeTags_tag htag, List.append_assoc, List.append_assoc, readTags_replicate,
        readTags_tag htag, if_neg hodd, hhalf, ih, settled_tag htag, trailing_tag htag]
      simp [shownSlashes]
  | cons slashes c text hc hnone ih =>
      rw [escapeTags_cons hc hnone, List.append_assoc, readTags_replicate, List.cons_append,
        readTags_cons hc (tag?_escapeTags hrest hnone), ih]
      simp [shownSlashes, settled, trailing, hc]

/-- A literal text is read up to the backslashes at its end, of which a single one is written
twice. -/
theorem readTags_escapeMarkup {rest : List Char} (hrest : Inert rest) (text : String) :
    readTags 0 ((escapeMarkup text).toList ++ rest)
      = (settled 0 text.toList).map .shown
        ++ readTags (trailing 0 text.toList + if trailing 0 text.toList = 1 then 1 else 0)
          rest := by
  rw [escapeMarkup, String.toList_ofList, guardEnd_eq, trailing_escapeTags, List.append_assoc]
  split
  · rw [List.singleton_append, readTags_escapeTags hrest.backslash]
    congr 1
    exact readTags_replicate _ 1 rest
  · exact readTags_escapeTags hrest 0 text.toList

theorem escapeTags_ne_nil (slashes : Nat) (text : List Char) (h : slashes ≠ 0 ∨ text ≠ []) :
    escapeTags slashes text ≠ [] := by
  induction slashes, text using induction_steps with
  | nil slashes => simpa [escapeTags] using h
  | backslash slashes text ih =>
      rw [escapeTags, if_pos rfl]
      exact ih (.inl (Nat.succ_ne_zero slashes))
  | tag slashes tag text htag ih => simp [escapeTags_tag htag]
  | cons slashes c text hc hnone ih => simp [escapeTags_cons hc hnone]

theorem isEmpty_escapeMarkup (text : String) : (escapeMarkup text).isEmpty = text.isEmpty := by
  rw [Bool.eq_iff_iff, String.isEmpty_iff, String.isEmpty_iff]
  constructor
  · intro h
    by_contra hne
    refine escapeTags_ne_nil 0 text.toList (.inr (by simpa using hne)) ?_
    rw [escapeMarkup, guardEnd_eq, ← String.toList_inj, String.toList_ofList] at h
    exact (List.append_eq_nil_iff.1 h).1
  · rintro rfl
    simp [escapeMarkup, escapeTags, guardEnd]

/-- A piece of markup that is read alike whatever follows. -/
def Reads (text : List Char) (tokens : List Token) : Prop :=
  ∀ rest, readTags 0 (text ++ rest) = tokens ++ readTags 0 rest

theorem Reads.nil : Reads [] [] := fun _ => rfl

theorem Reads.append {a b : List Char} {x y : List Token} (ha : Reads a x) (hb : Reads b y) :
    Reads (a ++ b) (x ++ y) := by
  intro rest
  rw [List.append_assoc, ha, hb, List.append_assoc]

theorem Reads.readMarkup {text : String} {tokens : List Token} (h : Reads text.toList tokens) :
    readMarkup text = tokens := by
  simpa [Text.readMarkup, shownSlashes] using h []

/-- Text without an opening bracket and without a backslash is shown. -/
def Plain (text : List Char) : Prop := ∀ c ∈ text, c ≠ '[' ∧ c ≠ '\\'

theorem Plain.append {a b : List Char} (ha : Plain a) (hb : Plain b) : Plain (a ++ b) :=
  List.forall_mem_append.2 ⟨ha, hb⟩

theorem Reads.plain {text : List Char} (h : Plain text) : Reads text (text.map .shown) := by
  intro rest
  induction text with
  | nil => rfl
  | cons c text ih =>
      obtain ⟨hopen, hslash⟩ := h c (by simp)
      rw [List.cons_append, readTags_cons hslash (tag?_of_ne hopen _),
        ih fun d hd => h d (by simp [hd])]
      rfl

theorem Reads.tag {tag : List Char} (h : IsTag tag) : Reads tag [.tag tag] := by
  intro rest
  simpa [shownSlashes] using readTags_tag h 0 rest

def weight (tokens : List Token) : Nat :=
  (shownText tokens).length + ((tagsOf tokens).map fun tag => tag.length - 1).sum

@[simp] theorem weight_append (a b : List Token) : weight (a ++ b) = weight a + weight b := by
  simp only [weight, shownText_append, tagsOf_append, String.length_append, List.map_append,
    List.sum_append]
  omega

@[simp] theorem weight_map_shown (text : List Char) : weight (text.map .shown) = text.length := by
  simp [weight]

@[simp] theorem weight_tag (text : List Char) : weight [.tag text] = text.length - 1 := by
  simp [weight, shownText, tagsOf]

@[simp] theorem weight_shownSlashes (count : Nat) : weight (shownSlashes count) = count := by
  simpa [shownSlashes] using weight_map_shown (List.replicate count '\\')

/-- A piece that is read as wanted exactly under a condition. -/
def ReadAs (wanted : List Token) (condition : Prop) (text : List Char) : Prop :=
  ∃ tokens, Reads text tokens ∧ (condition → tokens = wanted) ∧
    (¬condition → weight tokens < weight wanted)

variable {a b : List Char} {x y : List Token} {p q : Prop}

theorem Reads.readAs (h : Reads a x) : ReadAs x True a :=
  ⟨x, h, fun _ => rfl, fun hfalse => absurd trivial hfalse⟩

theorem ReadAs.of_iff (h : ReadAs x p a) (hiff : p ↔ q) : ReadAs x q a := propext hiff ▸ h

theorem ReadAs.append (ha : ReadAs x p a) (hb : ReadAs y q b) :
    ReadAs (x ++ y) (p ∧ q) (a ++ b) := by
  obtain ⟨readA, hreadA, hsameA, hlessA⟩ := ha
  obtain ⟨readB, hreadB, hsameB, hlessB⟩ := hb
  refine ⟨readA ++ readB, hreadA.append hreadB, fun ⟨hp, hq⟩ => by rw [hsameA hp, hsameB hq],
    fun hnot => ?_⟩
  simp only [weight_append]
  by_cases hp : p
  · have := hlessB fun hq => hnot ⟨hp, hq⟩
    rw [hsameA hp]
    omega
  · have := hlessA hp
    by_cases hq : q
    · rw [hsameB hq]
      omega
    · have := hlessB hq
      omega

theorem ReadAs.after_plain (ha : Plain a) (hb : ReadAs y q b) :
    ReadAs (a.map .shown ++ y) q (a ++ b) :=
  ((Reads.plain ha).readAs.append hb).of_iff (iff_of_eq (true_and q))

theorem ReadAs.of_plain (h : Plain a) : ReadAs (a.map .shown) True a := (Reads.plain h).readAs

theorem ReadAs.intercalate {ι : Type} {between : List Char} (hbetween : Plain between)
    {text : ι → List Char} {wanted : ι → List Token} {condition : ι → Prop} {pieces : List ι}
    (h : ∀ i ∈ pieces, ReadAs (wanted i) (condition i) (text i)) :
    ReadAs ((between.map Token.shown).intercalate (pieces.map wanted)) (∀ i ∈ pieces, condition i)
      (between.intercalate (pieces.map text)) := by
  induction pieces with
  | nil => exact Reads.nil.readAs.of_iff (by simp)
  | cons i pieces ih =>
      have hi := h i (by simp)
      have hrest := ih fun j hj => h j (by simp [hj])
      cases pieces with
      | nil => simpa using hi
      | cons j pieces =>
          simp only [List.map_cons, List.intercalate_cons_cons, List.append_assoc]
          exact (hi.append (hrest.after_plain hbetween)).of_iff (by simp)

theorem shownText_intercalate (between : List Char) (pieces : List (List Token)) :
    shownText ((between.map Token.shown).intercalate pieces)
      = (String.ofList between).intercalate (pieces.map shownText) := by
  induction pieces with
  | nil => simp [shownText]
  | cons piece pieces ih =>
      cases pieces with
      | nil => simp
      | cons next pieces =>
          simp only [List.intercalate_cons_cons, List.map_cons, String.intercalate_cons_cons,
            shownText_append, shownText_map_shown] at ih ⊢
          rw [ih]

theorem tagsOf_intercalate (between : List Char) (pieces : List (List Token)) :
    tagsOf ((between.map Token.shown).intercalate pieces) = pieces.flatMap tagsOf := by
  induction pieces with
  | nil => simp [tagsOf]
  | cons piece pieces ih =>
      cases pieces with
      | nil => simp
      | cons next pieces =>
          simp only [List.intercalate_cons_cons, tagsOf_append, tagsOf_map_shown, ih,
            List.flatMap_cons, List.append_nil]

/-- Whether shown text and tags are the wanted ones settles how the whole was read. -/
theorem ReadAs.iff {markup : String} (h : ReadAs x p markup.toList) :
    shownText (readMarkup markup) = shownText x ∧ tagsOf (readMarkup markup) = tagsOf x ↔ p := by
  obtain ⟨tokens, hread, hsame, hless⟩ := h
  rw [hread.readMarkup]
  constructor
  · rintro ⟨htext, htags⟩
    by_contra hp
    have := hless hp
    simp only [weight, htext, htags] at this
    omega
  · intro hp
    rw [hsame hp]
    exact ⟨rfl, rfl⟩

/-- Text between brackets is lost as a tag where it starts with a character that opens one. -/
theorem ReadAs.bracketed {inner : List Char} (hplain : Plain inner) (h : Unbracketed inner) :
    ReadAs (('[' :: inner ++ [']']).map .shown) (∀ c ∈ inner.head?, opensTag c = false)
      ('[' :: inner ++ [']']) := by
  have hshown (hopen : ∀ rest, tag? ('[' :: (inner ++ ']' :: rest)) = none) :
      Reads ('[' :: inner ++ [']']) (('[' :: inner ++ [']']).map .shown) := by
    intro rest
    have hclose : Plain [']'] := by simp [Plain]
    have hinner := (Reads.plain hplain).append (Reads.plain hclose) rest
    rw [List.append_assoc, List.singleton_append] at hinner
    rw [List.cons_append, List.cons_append, List.append_assoc, List.singleton_append,
      readTags_cons (by decide) (hopen rest), hinner]
    simp [shownSlashes]
  match inner, hplain, h, hshown with
  | [], _, _, hshown => exact (hshown fun rest => by simp [tag?, opensTag]).readAs.of_iff (by simp)
  | c :: inner, hplain, h, hshown =>
      by_cases hc : opensTag c = true
      · refine ⟨_, Reads.tag (.intro hc fun d hd => h d (by simp [hd])), fun hclosed => ?_,
          fun _ => ?_⟩
        · simp [hc] at hclosed
        · rw [weight_tag, weight_map_shown]
          simp
      · exact (hshown fun rest => by simp [tag?, hc]).readAs.of_iff (by simpa using hc)

/-- A literal text and the closing tag after it: from the second backslash at its end on, the text
loses half of them, and its closing tag where their number is odd. -/
theorem ReadAs.closed {closing : List Char} (hclosing : IsTag closing) (text : String) :
    ReadAs (text.toList.map .shown ++ [.tag closing]) (trailing 0 text.toList < 2)
      ((escapeMarkup text).toList ++ closing) := by
  have htext : text.toList = settled 0 text.toList
      ++ List.replicate (trailing 0 text.toList) '\\' := by
    simpa using (settled_append_trailing 0 text.toList).symm
  have hinert (rest : List Char) : Inert (closing ++ rest) := by
    obtain ⟨-, -⟩ := hclosing
    exact .bracket _
  have hlength : 2 ≤ closing.length := by
    obtain ⟨-, -⟩ := hclosing
    simp
  have hread (rest : List Char) := readTags_escapeMarkup (hinert rest) text
  generalize settled 0 text.toList = front at htext hread
  generalize trailing 0 text.toList = count at htext hread
  rw [htext]
  refine ⟨front.map .shown ++ (shownSlashes ((count + if count = 1 then 1 else 0) / 2)
    ++ if (count + if count = 1 then 1 else 0) % 2 = 0 then [.tag closing]
      else closing.map .shown), fun rest => ?_, fun hcount => ?_, fun hcount => ?_⟩
  · rw [List.append_assoc, hread, readTags_tag hclosing]
    simp only [List.append_assoc]
  · obtain rfl | rfl : count = 0 ∨ count = 1 := by omega
    · simp [shownSlashes]
    · simp [shownSlashes]
  · rw [if_neg (by omega), Nat.add_zero]
    split
    · simp only [weight_append, weight_map_shown, weight_shownSlashes, weight_tag,
        List.length_append, List.length_replicate]
      omega
    · simp only [weight_append, weight_map_shown, weight_shownSlashes, weight_tag,
        List.length_append, List.length_replicate]
      omega

/-- A literal text with nothing after it is shown with one backslash too many where it ends in
exactly one. -/
theorem readMarkup_escapeMarkup_iff (text : String) :
    shownText (readMarkup (escapeMarkup text)) = text ∧ tagsOf (readMarkup (escapeMarkup text)) = []
      ↔ trailing 0 text.toList ≠ 1 := by
  have htext : settled 0 text.toList ++ List.replicate (trailing 0 text.toList) '\\'
      = text.toList := by
    simpa using settled_append_trailing 0 text.toList
  have hread := readTags_escapeMarkup Inert.nil text
  rw [List.append_nil, readTags_nil] at hread
  unfold readMarkup
  rw [hread]
  generalize settled 0 text.toList = front at htext ⊢
  generalize trailing 0 text.toList = count at htext ⊢
  have hslashes (k : Nat) : shownSlashes k = (List.replicate k '\\').map .shown := by
    simp [shownSlashes]
  rw [hslashes, ← List.map_append, shownText_map_shown, tagsOf_map_shown, ← String.toList_inj,
    String.toList_ofList, ← htext]
  by_cases hcount : count = 1 <;> simp [hcount, List.replicate_succ]

end NonlinearProgram.Text
