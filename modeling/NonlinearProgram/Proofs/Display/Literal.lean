import NonlinearProgram.Display
import NonlinearProgram.Proofs.Attempt
import NonlinearProgram.Proofs.Decimal.Layout
import NonlinearProgram.Proofs.Text.Markup
import NonlinearProgram.Scalar.Exact
import NonlinearProgram.Scalar.Machine

/-!
# What is shown literally

Texts from outside are escaped before they are put into a panel, and the panel's own tags stand
around them. Numbers are not escaped, although lists of them stand between brackets: a list is lost
as a tag where its first number is written as a name. Of a text that ends in backslashes the tag
behind it takes all but the first.
-/

namespace NonlinearProgram

variable {α : Type} [Scalar α]

namespace Display

open Scalar Text

def plainText : Result α → Except (Error α) String
  | .solved s => solutionBody s
  | .solvedWithWarnings s warnings => do
    return (← solutionBody s) ++ "\n" ++ "\n".intercalate (warnings.map fun w => "! " ++ w)
  | .noSolution reason => do
    let text ← reason.asText
    return if text.isEmpty then "No solution found" else text
  | .failed message => message.asText

def ownTags : Result α → List String
  | .solved _ | .noSolution _ => []
  | .solvedWithWarnings _ warnings => warnings.flatMap fun _ => ["[yellow]", "[/yellow]"]
  | .failed _ => ["[bold red]", "[/bold red]"]

/-- A solution with vectors where numbers are listed, and with whole counts. -/
structure Listed (s : Solution α) : Prop where
  point : ∃ t n, s.point = some t ∧ t.shape = [n]
  constraintValues : ∀ t, s.constraintValues = some t → ∃ n, t.shape = [n]
  multipliers : ∀ t, s.multipliers = some t → ∃ n, t.shape = [n]
  iterations : ∃ n, s.iterations = .whole n
  functionEvals : ∃ n, s.functionEvals = .whole n
  gradientEvals : ∃ n, s.gradientEvals = .whole n

/-- A result as runs report it: with a text for its reason or message. -/
inductive Reported : Result α → Prop
  | solved {s : Solution α} (h : Listed s) : Reported (.solved s)
  | warned {s : Solution α} (h : Listed s) (warnings : List String) :
      Reported (.solvedWithWarnings s warnings)
  | noSolution (reason : String) : Reported (.noSolution (.text reason))
  | failed (message : String) : Reported (.failed (.text message))

/-- No list of a solution starts with a number that is written as a name. -/
def Unnamed (s : Solution α) : Prop :=
  ∀ t, s.point = some t ∨ s.constraintValues = some t ∨ s.multipliers = some t →
    ∀ x ∈ t.entries.head?, (reading x).isNamed = false

/-- What keeps a panel from losing text: no list starts with a name, no text before a tag of the
panel's own ends in two backslashes, and a reason does not end in a single one. -/
def Undisturbed : Result α → Prop
  | .solved s => Unnamed s
  | .solvedWithWarnings s warnings => Unnamed s ∧ ∀ w ∈ warnings, trailing 0 w.toList < 2
  | .noSolution reason => ∀ text, reason = .text text → trailing 0 text.toList ≠ 1
  | .failed message => ∀ text, message = .text text → trailing 0 text.toList < 2

/-- Literally shown: the text is the one composed from the fields, and the tags are the panel's
own. -/
def Literal (r : Result α) (body : String) : Prop :=
  plainText r = .ok (shownText (readMarkup body)) ∧ tagsOf (readMarkup body) = ownTags r

omit [Scalar α] in
theorem plain_of_numeral {text : List Char} (h : Layout.Numeral text) :
    Plain text ∧ Unbracketed text := by
  have hne : ∀ c ∈ text, c ≠ '[' ∧ c ≠ ']' ∧ c ≠ '\\' := by
    intro c hc
    have := h c hc
    refine ⟨?_, ?_, ?_⟩ <;> (rintro rfl; exact absurd this (by decide))
  exact ⟨fun c hc => ⟨(hne c hc).1, (hne c hc).2.2⟩, fun c hc => ⟨(hne c hc).1, (hne c hc).2.1⟩⟩

theorem numeral_general (digits : Nat) (x : α) : Layout.Numeral (general digits x).toList := by
  obtain ⟨c, rest, heq, hnumeral, -⟩ := general_written digits x
  rwa [heq]

/-- A number written as a name starts as a tag does, any other one does not. -/
theorem opensTag_general (digits : Nat) (x : α) :
    ∃ c rest, (general digits x).toList = c :: rest ∧ opensTag c = (reading x).isNamed := by
  obtain ⟨c, rest, heq, -, ⟨hc, hname⟩ | ⟨hc | rfl, hname⟩⟩ := general_written digits x
  · exact ⟨c, rest, heq, by rw [hname, opensTag_of_isLower hc]⟩
  · exact ⟨c, rest, heq, by rw [hname, opensTag_of_isDigit hc]⟩
  · exact ⟨'-', rest, heq, by rw [hname]; rfl⟩

def listed (digits : Nat) (xs : List α) : List Char :=
  [',', ' '].intercalate (xs.map fun x => (general digits x).toList)

theorem listed_cons_cons (digits : Nat) (x y : α) (xs : List α) :
    listed digits (x :: y :: xs)
      = (general digits x).toList ++ [',', ' '] ++ listed digits (y :: xs) := by
  simp [listed, List.intercalate_cons_cons]

theorem plain_listed (digits : Nat) (xs : List α) :
    Plain (listed digits xs) ∧ Unbracketed (listed digits xs) := by
  induction xs with
  | nil => simp [listed, Plain, Unbracketed]
  | cons x xs ih =>
      have hx := plain_of_numeral (numeral_general digits x)
      cases xs with
      | nil => simpa [listed] using hx
      | cons y xs =>
          rw [listed_cons_cons]
          refine ⟨(hx.1.append ?_).append ih.1, (hx.2.append ?_).append ih.2⟩
          · simp [Plain]
          · simp [Unbracketed]

/-- A list starts as a tag does where its first number is written as a name. -/
theorem opensTag_listed_iff (digits : Nat) (xs : List α) :
    (∀ c ∈ (listed digits xs).head?, opensTag c = false)
      ↔ ∀ x ∈ xs.head?, (reading x).isNamed = false := by
  match xs with
  | [] => simp [listed]
  | [x] =>
      obtain ⟨c, rest, heq, hopens⟩ := opensTag_general digits x
      simp [listed, heq, hopens]
  | x :: y :: xs =>
      obtain ⟨c, rest, heq, hopens⟩ := opensTag_general digits x
      simp [listed_cons_cons, heq, hopens]

variable {t : Tensor α} {n : Nat}

theorem bracketed_eq (digits : Nat) (h : t.shape = [n]) :
    ∃ text, bracketed digits t = .ok text ∧
      text.toList = '[' :: listed digits t.entries ++ [']'] := by
  unfold bracketed
  rw [h]
  refine ⟨_, rfl, ?_⟩
  simp [listed, Function.comp_def]

/-- A line with a list is read as it stands unless the list starts with a name. -/
theorem readAs_bracketed {label text : String} {digits : Nat} (hlabel : Plain label.toList)
    (h : t.shape = [n]) (htext : bracketed digits t = .ok text) :
    ReadAs ((label ++ text).toList.map .shown) (∀ x ∈ t.entries.head?, (reading x).isNamed = false)
      (label ++ text).toList := by
  obtain ⟨text', htext', hchars⟩ := bracketed_eq digits h
  cases htext.symm.trans htext'
  obtain ⟨hplain, hunbracketed⟩ := plain_listed digits t.entries
  rw [String.toList_append, hchars, List.map_append]
  exact ((ReadAs.bracketed hplain hunbracketed).of_iff
    (opensTag_listed_iff digits t.entries)).after_plain hlabel

def following (lines : List String) : List Char := lines.flatMap fun line => '\n' :: line.toList

theorem toList_intercalate_lines (line : String) (lines : List String) :
    ("\n".intercalate (line :: lines)).toList = line.toList ++ following lines := by
  induction lines generalizing line with
  | nil => simp [following]
  | cons next lines ih =>
      rw [String.intercalate_cons_cons, String.toList_append, String.toList_append, ih]
      simp [following]

theorem readAs_following {p : Prop} {line : String}
    (h : ReadAs (line.toList.map .shown) p line.toList) :
    ReadAs ((following [line]).map .shown) p (following [line]) := by
  have hbreak : Plain ['\n'] := by simp [Plain]
  simpa [following] using h.after_plain hbreak

theorem readAs_numberLine {label : String} (hlabel : Plain label.toList) (digits : Nat)
    {o : Option (Tensor α)} (h : ∀ t, o = some t → ∃ n, t.shape = [n]) :
    ∃ lines, numberLine label digits o = .ok lines ∧
      ReadAs ((following lines).map .shown)
        (∀ t, o = some t → ∀ x ∈ t.entries.head?, (reading x).isNamed = false)
        (following lines) := by
  cases o with
  | none => exact ⟨[], rfl, Reads.nil.readAs.of_iff (by simp)⟩
  | some t =>
      obtain ⟨n, hn⟩ := h t rfl
      by_cases hempty : t.entries.isEmpty = true
      · refine ⟨[], by simp [numberLine, hempty], Reads.nil.readAs.of_iff ?_⟩
        simp_all
      · obtain ⟨text, htext, -⟩ := bracketed_eq digits hn
        refine ⟨[label ++ text], by simp [numberLine, hempty, htext], ?_⟩
        exact (readAs_following (readAs_bracketed hlabel hn htext)).of_iff (by simp)

omit [Scalar α] in
theorem following_append (a b : List String) : following (a ++ b) = following a ++ following b :=
  List.flatMap_append

omit [Scalar α] in
theorem plain_toString (n : Int) : Plain (toString n).toList := by
  have hdigits (m : Nat) : Plain (Nat.repr m).toList := by
    rw [Nat.toList_repr]
    exact (plain_of_numeral (Layout.digits_toDigits m).numeral).1
  cases n with
  | ofNat m => exact hdigits m
  | negSucc m =>
      change Plain ("-" ++ Nat.repr (m + 1)).toList
      rw [String.toList_append]
      exact Plain.append (by simp [Plain]) (hdigits (m + 1))

theorem plain_objectiveLine (x : α) : Plain ("Objective: " ++ general 10 x).toList := by
  rw [String.toList_append]
  exact Plain.append (by simp [Plain]) (plain_of_numeral (numeral_general 10 x)).1

def countsLine (s : Solution α) : String :=
  s!"Iterations: {s.iterations.write}, evaluations: {s.functionEvals.write} "
    ++ s!"(gradients: {s.gradientEvals.write})"

theorem plain_countsLine {s : Solution α} (h : Listed s) : Plain (countsLine s).toList := by
  obtain ⟨i, hi⟩ := h.iterations
  obtain ⟨j, hj⟩ := h.functionEvals
  obtain ⟨k, hk⟩ := h.gradientEvals
  have hwrite (m : Int) : Plain ((Datum.whole m : Datum α).write).toList := plain_toString m
  unfold countsLine
  rw [hi, hj, hk]
  simp only [String.toList_append]
  refine .append (.append (.append (.append (.append ?_ (hwrite i)) ?_) (hwrite j)) ?_)
    (.append (.append ?_ (hwrite k)) ?_)
  all_goals simp [Plain, toString]

/-- The lines of a solution are read as they stand exactly where no list starts with a name. -/
theorem readAs_solutionBody {s : Solution α} (h : Listed s) :
    ∃ body, solutionBody s = .ok body ∧
      ReadAs (body.toList.map .shown) (Unnamed s) body.toList := by
  obtain ⟨t, n, ht, hn⟩ := h.point
  obtain ⟨point, hpoint, -⟩ := bracketed_eq 8 hn
  have hx : Plain "x = ".toList := by simp [Plain]
  have hg : Plain "g(x) = ".toList := by simp [Plain]
  have hlambda : Plain "lambda = ".toList := by simp [Plain]
  obtain ⟨values, hvalues, hvaluesRead⟩ := readAs_numberLine hg 8 h.constraintValues
  obtain ⟨multipliers, hmultipliers, hmultipliersRead⟩ := readAs_numberLine hlambda 6 h.multipliers
  have hbody : solutionBody s = .ok ("\n".intercalate (("Objective: " ++ general 10 s.value)
      :: (["x = " ++ point] ++ values ++ multipliers ++ [countsLine s]))) := by
    simp only [solutionBody, solutionLines, ht, hpoint, hvalues, hmultipliers]
    rfl
  refine ⟨_, hbody, ?_⟩
  have hpointRead := readAs_following (readAs_bracketed hx hn hpoint)
  have hcounts := readAs_following (ReadAs.of_plain (plain_countsLine h))
  have hread := (((hpointRead.append hvaluesRead).append hmultipliersRead).append
    hcounts).after_plain (plain_objectiveLine s.value)
  rw [toList_intercalate_lines]
  simp only [following_append, List.map_append]
  refine hread.of_iff ⟨?_, ?_⟩
  · rintro ⟨⟨⟨hnamed, hvalues⟩, hmultipliers⟩, -⟩ u (hu | hu | hu)
    · cases ht.symm.trans hu
      exact hnamed
    · exact hvalues u hu
    · exact hmultipliers u hu
  · intro hnamed
    exact ⟨⟨⟨hnamed t (.inl ht), fun u hu => hnamed u (.inr (.inl hu))⟩,
      fun u hu => hnamed u (.inr (.inr hu))⟩, trivial⟩

def warningTokens (warning : String) : List Token :=
  .tag "[yellow]".toList :: ("! " ++ warning).toList.map .shown ++ [.tag "[/yellow]".toList]

omit [Scalar α] in
theorem shownText_warningTokens (warning : String) :
    shownText (warningTokens warning) = "! " ++ warning := by
  rw [warningTokens, List.cons_append, shownText_tag, shownText_append, shownText_map_shown,
    String.ofList_toList, shownText_tag, shownText_nil, String.append_empty]

omit [Scalar α] in
theorem tagsOf_warningTokens (warning : String) :
    tagsOf (warningTokens warning) = ["[yellow]", "[/yellow]"] := by
  rw [warningTokens, List.cons_append, tagsOf_tag, tagsOf_append, tagsOf_map_shown]
  simp

theorem readAs_warningLine (warning : String) :
    ReadAs (warningTokens warning) (trailing 0 warning.toList < 2)
      (warningLine warning).toList := by
  have hopening : IsTag "[yellow]".toList :=
    @IsTag.intro 'y' ['e', 'l', 'l', 'o', 'w'] rfl (by simp [Unbracketed])
  have hclosing : IsTag "[/yellow]".toList :=
    @IsTag.intro '/' ['y', 'e', 'l', 'l', 'o', 'w'] rfl (by simp [Unbracketed])
  have hmark : Plain "! ".toList := by simp [Plain]
  have hread := ((Reads.tag hopening).readAs.append
    ((ReadAs.closed hclosing warning).after_plain hmark)).of_iff (iff_of_eq (true_and _))
  simpa [warningLine, warningTokens] using hread

theorem readAs_message (message : String) :
    ReadAs (.tag "[bold red]".toList :: message.toList.map .shown ++ [.tag "[/bold red]".toList])
      (trailing 0 message.toList < 2)
      ("[bold red]" ++ escapeMarkup message ++ "[/bold red]").toList := by
  have hopening : IsTag "[bold red]".toList :=
    @IsTag.intro 'b' ['o', 'l', 'd', ' ', 'r', 'e', 'd'] rfl (by simp [Unbracketed])
  have hclosing : IsTag "[/bold red]".toList :=
    @IsTag.intro '/' ['b', 'o', 'l', 'd', ' ', 'r', 'e', 'd'] rfl (by simp [Unbracketed])
  have hread := ((Reads.tag hopening).readAs.append (ReadAs.closed hclosing message)).of_iff
    (iff_of_eq (true_and _))
  simpa using hread

theorem literal_iff_of_readAs {r : Result α} {body text : String} {wanted : List Token} {p : Prop}
    (hread : ReadAs wanted p body.toList) (htext : plainText r = .ok text)
    (hshown : shownText wanted = text) (htags : tagsOf wanted = ownTags r) :
    Literal r body ↔ p := by
  rw [← hread.iff, Literal, htext, hshown, htags, Except.ok.injEq]
  exact and_congr_left' eq_comm

theorem literal_solved_iff {s : Solution α} (h : Listed s) :
    ∃ panel, resultPanel (.solved s) = .ok panel ∧
      (Literal (.solved s) panel.body ↔ Unnamed s) := by
  obtain ⟨body, hbody, hread⟩ := readAs_solutionBody h
  refine ⟨⟨"Solved", "green", body⟩, by simp [resultPanel, hbody], ?_⟩
  exact literal_iff_of_readAs hread hbody (by simp) (by simp [ownTags])

theorem literal_warned_iff {s : Solution α} (h : Listed s) (warnings : List String) :
    ∃ panel, resultPanel (.solvedWithWarnings s warnings) = .ok panel ∧
      (Literal (.solvedWithWarnings s warnings) panel.body
        ↔ Unnamed s ∧ ∀ w ∈ warnings, trailing 0 w.toList < 2) := by
  obtain ⟨body, hbody, hread⟩ := readAs_solutionBody h
  have hbreak : Plain ['\n'] := by simp [Plain]
  have hwarnings := ReadAs.intercalate hbreak fun w (_ : w ∈ warnings) => readAs_warningLine w
  have hall := hread.append (hwarnings.after_plain hbreak)
  have hchars : (body ++ "\n" ++ "\n".intercalate (warnings.map warningLine)).toList = body.toList
      ++ (['\n'] ++ ['\n'].intercalate (warnings.map fun w => (warningLine w).toList)) := by
    simp [Function.comp_def]
  have htext : plainText (.solvedWithWarnings s warnings)
      = .ok (body ++ "\n" ++ "\n".intercalate (warnings.map fun w => "! " ++ w)) := by
    simp [plainText, hbody]
  refine ⟨⟨"Solved with warnings", "yellow", _⟩, by simp only [resultPanel, hbody]; rfl, ?_⟩
  refine literal_iff_of_readAs (hchars ▸ hall) htext ?_ ?_
  · rw [shownText_append, shownText_append, shownText_intercalate, shownText_map_shown,
      shownText_map_shown, List.map_map]
    simp [Function.comp_def, shownText_warningTokens, String.append_assoc]
  · rw [tagsOf_append, tagsOf_append, tagsOf_intercalate, List.flatMap_map, tagsOf_map_shown,
      tagsOf_map_shown]
    simp [ownTags, tagsOf_warningTokens]

theorem literal_failed_iff (message : String) :
    ∃ panel, resultPanel (.failed (.text message) : Result α) = .ok panel ∧
      (Literal (.failed (.text message) : Result α) panel.body ↔
        trailing 0 message.toList < 2) := by
  have htext : plainText (.failed (.text message) : Result α) = .ok message := rfl
  refine ⟨_, rfl, literal_iff_of_readAs (readAs_message message) htext ?_ ?_⟩
  · rw [List.cons_append, shownText_tag, shownText_append, shownText_map_shown,
      String.ofList_toList, shownText_tag, shownText_nil, String.append_empty]
  · rw [List.cons_append, tagsOf_tag, tagsOf_append, tagsOf_map_shown]
    simp [ownTags]

theorem literal_noSolution_iff (reason : String) :
    ∃ panel, resultPanel (.noSolution (.text reason) : Result α) = .ok panel ∧
      (Literal (.noSolution (.text reason) : Result α) panel.body
        ↔ trailing 0 reason.toList ≠ 1) := by
  refine ⟨_, rfl, ?_⟩
  simp only [isEmpty_escapeMarkup]
  have htext : plainText (.noSolution (.text reason) : Result α)
      = .ok (if reason.isEmpty = true then "No solution found" else reason) := rfl
  by_cases hempty : reason.isEmpty = true
  · have hplain : Plain "No solution found".toList := by simp [Plain]
    rw [if_pos hempty] at htext ⊢
    refine (literal_iff_of_readAs (ReadAs.of_plain hplain) htext ?_ ?_).trans ?_
    · rw [shownText_map_shown, String.ofList_toList]
    · rw [tagsOf_map_shown, ownTags]
    · simp [String.isEmpty_iff.1 hempty, trailing]
  · rw [if_neg hempty] at htext ⊢
    rw [← readMarkup_escapeMarkup_iff, Literal, htext, Except.ok.injEq]
    exact and_congr_left' eq_comm

/-- What a panel shows of a result, and exactly when: the text composed from the fields and no tags
but the panel's own, each opening one with the one that closes it, unless a list of numbers starts
with a name, a warning or a message ends in two backslashes, or a reason ends in a single one. -/
theorem literal_resultPanel_iff {r : Result α} (h : Reported r) :
    ∃ panel, resultPanel r = .ok panel ∧ (Literal r panel.body ↔ Undisturbed r) := by
  cases h with
  | solved hs => exact literal_solved_iff hs
  | warned hs warnings => exact literal_warned_iff hs warnings
  | noSolution reason =>
      obtain ⟨panel, hpanel, hiff⟩ := @literal_noSolution_iff α _ reason
      exact ⟨panel, hpanel, by simpa [Undisturbed] using hiff⟩
  | failed message =>
      obtain ⟨panel, hpanel, hiff⟩ := @literal_failed_iff α _ message
      exact ⟨panel, hpanel, by simpa [Undisturbed] using hiff⟩

def bracketedWarning : Result Exact :=
  .solvedWithWarnings { point := some (.vector [.finite 1]), value := .finite 2 }
    ["stopped [early] \\"]

theorem literal_resultPanel_iff_bracketedWarning :
    Reported bracketedWarning ∧ ∃ panel, resultPanel bracketedWarning = .ok panel ∧
      Literal bracketedWarning panel.body := by
  have hlisted : Listed { point := some (.vector [Exact.finite 1]), value := .finite 2 } :=
    ⟨⟨_, 1, rfl, rfl⟩, by simp, by simp, ⟨0, rfl⟩, ⟨0, rfl⟩, ⟨0, rfl⟩⟩
  have hreported : Reported bracketedWarning := .warned hlisted _
  obtain ⟨panel, hpanel, hiff⟩ := literal_resultPanel_iff hreported
  refine ⟨hreported, panel, hpanel, hiff.2 ⟨?_, by decide⟩⟩
  rintro t (h | h | h)
  · cases h
    intro x hx
    obtain rfl : Exact.finite 1 = x := by simpa [Tensor.vector] using hx
    rfl
  · cases h
  · cases h

def namedMultiplier : Solution Float where
  point := some (.vector [1.0])
  value := 2.0
  multipliers := some (.vector [notANumber])

/-- The multiplier is taken for a tag and not shown. -/
theorem not_literal_namedMultiplier :
    ¬∀ r : Result Float, Reported r →
      ∃ panel, resultPanel r = .ok panel ∧ Literal r panel.body := by
  intro hall
  have hlisted : Listed namedMultiplier :=
    ⟨⟨_, 1, rfl, rfl⟩, by simp [namedMultiplier], fun t ht => ⟨1, by cases ht; rfl⟩,
      ⟨0, rfl⟩, ⟨0, rfl⟩, ⟨0, rfl⟩⟩
  obtain ⟨panel, hpanel, hliteral⟩ := hall _ (.solved hlisted)
  obtain ⟨panel', hpanel', hiff⟩ := literal_solved_iff hlisted
  cases hpanel.symm.trans hpanel'
  have hunnamed := hiff.1 hliteral (.vector [notANumber]) (.inr (.inr rfl)) notANumber rfl
  have hnamed : (reading (notANumber : Float)).isNamed = true := by decide +kernel
  exact absurd (hnamed.symm.trans hunnamed) (by decide)

end Display

end NonlinearProgram
