import NonlinearProgram.CommandLine
import NonlinearProgram.Proofs.Attempt

/-!
# What a command line can ask for

Whatever the words are, a command line that is read asks for one of the priorities or for none. Any
backend name can be asked for with any of them: behind a double dash every word is a value.
-/

namespace NonlinearProgram.CommandLine

def Progress.Admits (p : Progress) : Prop :=
  ∀ text, p.arguments.priority = some text → ∃ chosen, Priority.ofName? text = some chosen

variable {p q : Progress}

theorem Progress.Admits.choose {text : String} (h : p.choose text = .ok q) : q.Admits := by
  unfold Progress.choose at h
  cases hchosen : Priority.ofName? text with
  | none =>
      rw [hchosen] at h
      cases h
  | some chosen =>
      rw [hchosen] at h
      cases h
      rintro _ ⟨⟩
      exact ⟨chosen, hchosen⟩

theorem Progress.Admits.raise {flag : Flag} (hp : p.Admits) (h : p.raise flag = .ok q) :
    q.Admits := by
  cases flag with
  | help | priority => cases h
  | verbose =>
      cases h
      exact hp

theorem Progress.Admits.raiseAll {first : Flag} {joined : String} (hp : p.Admits)
    (h : p.raiseAll first joined = .ok q) : q.Admits := by
  have hflags : ∀ (flags : List Flag) {p : Progress}, p.Admits →
      flags.foldlM Progress.raise p = .ok q → q.Admits := by
    intro flags
    induction flags with
    | nil =>
        intro p hp h
        cases h
        exact hp
    | cons flag flags ih =>
        intro p hp h
        obtain ⟨next, hnext, h⟩ := bind_eq_ok_iff.1 h
        exact ih (hp.raise hnext) h
  unfold Progress.raiseAll at h
  split at h
  · cases h
  · cases h
  · exact hflags _ hp h

theorem Progress.Admits.name (hp : p.Admits) (text : String) :
    (if p.named = true then { p with excess := true } else p.name text).Admits := by
  split
  · exact hp
  · exact hp

theorem Progress.Admits.read {tokens : List Token} (hp : p.Admits)
    (h : read p tokens = .ok q) : q.Admits := by
  fun_induction CommandLine.read p tokens with
  | case1 p =>
      cases h
      exact hp
  | case2 | case8 => cases h
  | case3 p rest ih => exact ih hp h
  | case4 p _ text rest ih | case5 p _ text rest ih =>
      obtain ⟨next, hnext, h⟩ := bind_eq_ok_iff.1 h
      exact ih next (.choose hnext) h
  | case6 p flag _ rest _ ih =>
      obtain ⟨next, hnext, h⟩ := bind_eq_ok_iff.1 h
      exact ih next (hp.raise hnext) h
  | case7 p flag joined rest _ ih =>
      obtain ⟨next, hnext, h⟩ := bind_eq_ok_iff.1 h
      exact ih next (hp.raiseAll hnext) h
  | case9 p text rest ih | case11 p text rest ih => exact ih (hp.name text) h
  | case10 p rest _ ih =>
      refine ih ?_ h
      split
      · exact hp
      · exact hp
  | case12 p text rest _ ih => exact ih (hp.name text) h

/-- A command line that is read asks for one of the priorities, if it asks for any. -/
theorem priority_of_parse {words : List String} {arguments : Arguments}
    (h : parse words = .ok arguments) {text : String} (htext : arguments.priority = some text) :
    ∃ chosen, Priority.ofName? text = some chosen := by
  obtain ⟨-, h⟩ := check_eq_ok_iff.1 h
  obtain ⟨q, hq, h⟩ := bind_eq_ok_iff.1 h
  obtain ⟨-, h⟩ := check_eq_ok_iff.1 h
  rw [pure_eq_ok_iff] at h
  subst h
  have hstart : ({} : Progress).Admits := nofun
  exact hstart.read hq text htext

theorem exists_parse_eq_ok (backend : String) (priority : Option Priority) :
    ∃ words, parse words = .ok { backend := backend, priority := priority.map Priority.name } := by
  cases priority with
  | none => exact ⟨["--", backend], by with_unfolding_all rfl⟩
  | some chosen =>
      refine ⟨["--priority", chosen.name, "--", backend], ?_⟩
      cases chosen with
      | _ => with_unfolding_all rfl

end NonlinearProgram.CommandLine
