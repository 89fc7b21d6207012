import Fault.Json.Basic
import Mathlib

/-!
# Members in the order of their names

Members that were put one after the other stand in the order of their names, and of members of one
name the last one stays. Members in order are determined by what they hold under each name: to see
that two of them are the same, it is enough to ask both for every name.
-/

namespace Fault.Members

theorem get?_cons
    (name : String)
    (form : Json)
    (rest : Members)
    (asked : String) :
    get? ((name, form) :: rest) asked = if name = asked then some form else rest.get? asked := by
  by_cases same : name = asked
  · simp [get?, same]
  · simp [get?, same]

theorem get?_append
    (first second : List (String × Json))
    (name : String) :
    get? (first ++ second) name = (get? first name).or (get? second name) := by
  simp only [get?, List.find?_append, Option.map_or]

/-- A member that is there or not is found under its own name only. -/
theorem get?_toList_map
    {α : Type}
    (value : Option α)
    (name : String)
    (form : α → Json)
    (asked : String) :
    get? (value.toList.map fun present => (name, form present)) asked =
      if name = asked then value.map form else none := by
  cases value with
  | none =>
      simp [get?]
  | some present =>
      exact get?_cons name (form present) [] asked

/-- What is found under a name is a member. -/
theorem mem_of_get?_eq_some
    {members : Members}
    {name : String}
    {form : Json}
    (found : members.get? name = some form) :
    (name, form) ∈ members := by
  obtain ⟨member, isFound, rfl⟩ := Option.map_eq_some_iff.mp found
  have named : member.1 = name := by
    simpa using List.find?_some isFound
  rw [← named]
  exact List.mem_of_find?_eq_some isFound

/-- Under a name that no member has nothing is found. -/
theorem get?_eq_none_of_not_mem
    {members : Members}
    {name : String}
    (absent : name ∉ members.map Prod.fst) :
    members.get? name = none := by
  cases found : members.get? name with
  | none =>
      rfl
  | some form =>
      exact absurd (List.mem_map_of_mem (f := Prod.fst) (mem_of_get?_eq_some found)) absent

/-- When no name occurs twice, every member is found under its name. -/
theorem get?_eq_some_of_mem
    {members : Members}
    {name : String}
    {form : Json}
    (distinct : (members.map Prod.fst).Nodup)
    (member : (name, form) ∈ members) :
    members.get? name = some form := by
  induction members with
  | nil =>
      simp at member
  | cons head rest inductionHypothesis =>
      rw [List.map_cons, List.nodup_cons] at distinct
      rw [get?_cons]
      rcases List.mem_cons.mp member with isHead | inRest
      · rw [← isHead, if_pos rfl]
      · have differs : head.1 ≠ name := by
          intro same
          rw [same] at distinct
          exact distinct.1 (List.mem_map_of_mem inRest)
        rw [if_neg differs]
        exact inductionHypothesis distinct.2 inRest

/-! ## Putting members -/

/-- To insert a member shows under its name only. -/
theorem get?_insert
    (members : Members)
    (name : String)
    (form : Json)
    (asked : String) :
    (members.insert name form).get? asked =
      if name = asked then some form else members.get? asked := by
  induction members with
  | nil =>
      simp only [insert, get?_cons]
  | cons head rest inductionHypothesis =>
      simp only [insert]
      by_cases same : name = head.1
      · rw [if_pos same, get?_cons, get?_cons, ← same]
        split <;> rfl
      · rw [if_neg same]
        by_cases before : name < head.1
        · rw [if_pos before, get?_cons]
        · rw [if_neg before, get?_cons, get?_cons, inductionHypothesis]
          by_cases isHead : head.1 = asked
          · have differs : name ≠ asked := fun isAsked => same (isAsked.trans isHead.symm)
            rw [if_pos isHead, if_pos isHead, if_neg differs]
          · rw [if_neg isHead, if_neg isHead]

/-- After an insertion a member is the new one or was there before. -/
theorem eq_or_mem_of_mem_insert
    {members : Members}
    {name : String}
    {form : Json}
    {member : String × Json}
    (present : member ∈ members.insert name form) :
    member = (name, form) ∨ member ∈ members := by
  induction members with
  | nil =>
      exact .inl (List.mem_singleton.mp present)
  | cons head rest inductionHypothesis =>
      simp only [insert] at present
      split at present
      · exact (List.mem_cons.mp present).imp_right (List.mem_cons_of_mem head)
      · split at present
        · exact List.mem_cons.mp present
        · rcases List.mem_cons.mp present with isHead | inRest
          · exact .inr (isHead ▸ List.mem_cons_self)
          · exact (inductionHypothesis inRest).imp_right (List.mem_cons_of_mem head)

/-- A list of members is inserted one by one, the last one at the end. -/
theorem ofList_concat
    (members : List (String × Json))
    (last : String × Json) :
    ofList (members ++ [last]) = (ofList members).insert last.1 last.2 := by
  simp [ofList]

/-- Of members of one name the last one stays. -/
theorem get?_ofList
    (members : List (String × Json))
    (name : String) :
    (ofList members).get? name = get? members.reverse name := by
  induction members using List.reverseRecOn with
  | nil =>
      rfl
  | append_singleton front last inductionHypothesis =>
      rw [ofList_concat, get?_insert, List.reverse_append, List.reverse_singleton,
        List.singleton_append, get?_cons, inductionHypothesis]

/-- When no name occurs twice, all members stay. -/
theorem get?_ofList_of_nodup
    {members : List (String × Json)}
    (distinct : (members.map Prod.fst).Nodup)
    (name : String) :
    (ofList members).get? name = get? members name := by
  rw [get?_ofList]
  by_cases present : name ∈ members.map Prod.fst
  · obtain ⟨member, isMember, rfl⟩ := List.mem_map.mp present
    have reversed : (members.reverse.map Prod.fst).Nodup := by
      rw [List.map_reverse]
      exact List.nodup_reverse.mpr distinct
    rw [get?_eq_some_of_mem distinct isMember,
      get?_eq_some_of_mem reversed (List.mem_reverse.mpr isMember)]
  · rw [get?_eq_none_of_not_mem present, get?_eq_none_of_not_mem (by simpa using present)]

/-! ## Order -/

/-- Whether members stand in the order of their names, and no name occurs twice. -/
def IsSorted (members : Members) : Prop :=
  (members.map Prod.fst).Pairwise (· < ·)

/-- Sorted members have different names. -/
theorem IsSorted.nodup
    {members : Members}
    (sorted : members.IsSorted) :
    (members.map Prod.fst).Nodup :=
  List.Pairwise.imp ne_of_lt sorted

/-- Members are sorted when the first name is before all others and these are sorted. -/
theorem isSorted_cons
    {name : String}
    {form : Json}
    {rest : Members} :
    IsSorted ((name, form) :: rest) ↔
      (∀ member ∈ rest, name < member.1) ∧ rest.IsSorted := by
  simp [IsSorted]

/-- To insert a member keeps the order of the names. -/
theorem isSorted_insert
    {members : Members}
    (sorted : members.IsSorted)
    (name : String)
    (form : Json) :
    (members.insert name form).IsSorted := by
  induction members with
  | nil =>
      simp [insert, IsSorted]
  | cons head rest inductionHypothesis =>
      obtain ⟨headFirst, restSorted⟩ := isSorted_cons.mp sorted
      simp only [insert]
      by_cases same : name = head.1
      · rw [if_pos same, isSorted_cons, same]
        exact ⟨headFirst, restSorted⟩
      · rw [if_neg same]
        by_cases before : name < head.1
        · rw [if_pos before, isSorted_cons]
          refine ⟨fun member present => ?_, sorted⟩
          rcases List.mem_cons.mp present with isHead | inRest
          · rw [isHead]
            exact before
          · exact before.trans (headFirst member inRest)
        · rw [if_neg before, isSorted_cons]
          refine ⟨fun member present => ?_, inductionHypothesis restSorted⟩
          rcases eq_or_mem_of_mem_insert present with isNew | inRest
          · rw [isNew]
            exact lt_of_le_of_ne (not_lt.mp before) (Ne.symm same)
          · exact headFirst member inRest

/-- Members that were inserted one by one are sorted. -/
theorem isSorted_ofList (members : List (String × Json)) :
    (ofList members).IsSorted := by
  induction members using List.reverseRecOn with
  | nil =>
      exact List.Pairwise.nil
  | append_singleton front last inductionHypothesis =>
      rw [ofList_concat]
      exact isSorted_insert inductionHypothesis last.1 last.2

/-- A name that comes before the first one is not there. -/
private theorem get?_eq_none_of_forall_lt
    {members : Members}
    {name : String}
    (before : ∀ member ∈ members, name < member.1) :
    members.get? name = none := by
  apply get?_eq_none_of_not_mem
  intro present
  obtain ⟨member, isMember, same⟩ := List.mem_map.mp present
  exact absurd same (ne_of_gt (before member isMember))

/-- Members in order are the same when they hold the same under every name. -/
theorem IsSorted.eq_of_get?_eq
    {first second : Members}
    (firstSorted : first.IsSorted)
    (secondSorted : second.IsSorted)
    (same : ∀ name, first.get? name = second.get? name) :
    first = second := by
  induction first generalizing second with
  | nil =>
      cases second with
      | nil =>
          rfl
      | cons head rest =>
          have found := same head.1
          rw [get?_cons, if_pos rfl] at found
          cases found
  | cons head rest inductionHypothesis =>
      obtain ⟨headFirst, restSorted⟩ := isSorted_cons.mp firstSorted
      have headFound := same head.1
      rw [get?_cons, if_pos rfl] at headFound
      cases second with
      | nil =>
          cases headFound
      | cons other others =>
          obtain ⟨otherFirst, othersSorted⟩ := isSorted_cons.mp secondSorted
          have otherFound := same other.1
          rw [get?_cons, get?_cons, if_pos rfl] at otherFound
          rw [get?_cons] at headFound
          -- The first names agree: each of them would otherwise be missing on the other side.
          have sameName : head.1 = other.1 := by
            rcases lt_trichotomy head.1 other.1 with before | equal | behind
            · rw [if_neg (ne_of_gt before), get?_eq_none_of_forall_lt
                fun member present => before.trans (otherFirst member present)] at headFound
              cases headFound
            · exact equal
            · rw [if_neg (ne_of_gt behind), get?_eq_none_of_forall_lt
                fun member present => behind.trans (headFirst member present)] at otherFound
              cases otherFound
          rw [if_pos sameName.symm] at headFound
          have sameRest : rest = others := by
            refine inductionHypothesis restSorted othersSorted fun name => ?_
            by_cases isHead : head.1 = name
            · rw [get?_eq_none_of_forall_lt (by simpa [← isHead] using headFirst),
                get?_eq_none_of_forall_lt (by simpa [← isHead, sameName] using otherFirst)]
            · have later := same name
              rwa [get?_cons, get?_cons, if_neg isHead, if_neg (sameName ▸ isHead)] at later
          rw [sameRest, Prod.ext sameName (Option.some.inj headFound)]

end Fault.Members
