import HeaderBindings.Proofs.Offsets.Groups

/-!
Taking out calls of extensions by offsets. The match of a call ends behind a parenthesis, so there is
an offset in front of that, and the list is closed behind the start of the call.
-/

namespace HeaderBindings.Offsets
open Source

/-! ### Attempts that cannot fail -/

section
variable {ε α β : Type}

theorem lift_pure (value : α) : (ExceptT.lift (pure value) : Attempt ε α) = pure value := rfl

theorem lift_bind (first : Logged α) (next : α → Logged β) :
    (ExceptT.lift (first >>= next) : Attempt ε β)
      = ExceptT.lift first >>= fun value => ExceptT.lift (next value) := by
  have hevents : (first >>= next).events ++ []
      = (first.events ++ []) ++ ((next first.value).events ++ []) := by
    simp
  exact congrArg (Logged.mk _) hevents

theorem outcome_lift (logged : Logged α) :
    Attempt.outcome (ExceptT.lift logged : Attempt ε α)
      = { value := .ok logged.value, events := logged.events } :=
  congrArg (Logged.mk _) (List.append_nil logged.events)

theorem attempt_bind {first : Checked α} {value : α} (h : first = .ok value)
    (next : α → Attempt Fault β) : attempt first >>= next = next value := by
  rw [h]
  exact rfl

end

/-! ### Calls -/

theorem minus_callStop (cut : CallCut) :
    minus (callStop cut) 1 = .ok (size (cut.before ++ cut.head)) := by
  rw [callStop, size_snoc_of_ascii (by decide), minus, if_pos (by omega), Nat.add_sub_cancel]

theorem groupEnd?_of_firstCall? {source : List Char} {cut : CallCut}
    (hfirst : firstCall? source = some cut) :
    groupEnd? (bytesOf source) '('.toUInt8 ')'.toUInt8 (size (cut.before ++ cut.head))
      = .ok ((closingGroup? '(' ')' cut.list).map fun closed =>
          size (cut.before ++ cut.head ++ closed.1)) :=
  groupEnd?_eq (by decide) (by decide) (firstCallFrom_append hfirst).symm

theorem dropExtensions_eq (source : List Char) :
    dropExtensions source = ExceptT.lift (Source.dropExtensions source) := by
  fun_induction Source.dropExtensions source with
  | case1 source hfirst =>
      rw [dropExtensions, hfirst]
      rfl
  | case2 source cut hfirst hopen =>
      have hgroup := groupEnd?_of_firstCall? hfirst
      rw [hopen] at hgroup
      rw [dropExtensions, hfirst]
      simp only [attempt_bind (minus_callStop cut), attempt_bind hgroup]
      rfl
  | case3 source cut hfirst group rest hclosed ih =>
      have hgroup := groupEnd?_of_firstCall? hfirst
      rw [hclosed] at hgroup
      have hsource : source = cut.before ++ cut.head ++ (group ++ rest) := by
        rw [closeFrom_append hclosed]
        exact (firstCallFrom_append hfirst).symm
      have hfront : slice source 0 (callStart cut) = .ok cut.before := by
        have hslice := slice_middle [] cut.before (cut.head ++ (group ++ rest))
        rwa [List.nil_append, List.nil_append, ← List.append_assoc, ← hsource] at hslice
      have hrest : slice source (size (cut.before ++ cut.head ++ group)) (size source)
          = .ok rest := by
        have hslice := slice_end (cut.before ++ cut.head ++ group) rest
        rwa [List.append_assoc _ group, ← hsource] at hslice
      rw [dropExtensions, hfirst]
      simp only [attempt_bind (minus_callStop cut), attempt_bind hgroup, attempt_bind hfront,
        attempt_bind hrest, Option.map_some, if_pos (length_lt_of_firstCall? hfirst hclosed), ih]
      rw [lift_bind]
      rfl

end HeaderBindings.Offsets
