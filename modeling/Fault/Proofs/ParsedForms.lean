import Fault.Json.Parser
import Fault.Proofs.OrderedForms

/-!
# Forms that are read from text

The reader of JSON text puts every member at its place as soon as it has read it. So the members of
every object that it returns stand in the order of their names, however deep the object lies, and
every form that is read from text stands in order.
-/

namespace Fault.Json

/-! ## Readers -/

/-- Whether a form that a reader gives, together with the rest of the text, stands in order. -/
def GivesOrdered (result : Except ParseError (Json × List Char)) : Prop :=
  ∀ form rest, result = .ok (form, rest) → form.IsOrdered

namespace GivesOrdered

theorem error (failure : ParseError) :
    GivesOrdered (.error failure) := by
  intro form rest read
  cases read

theorem ok
    {form : Json}
    (ordered : form.IsOrdered)
    (rest : List Char) :
    GivesOrdered (.ok (form, rest)) := by
  intro given behind read
  cases read
  exact ordered

/-- A reader gives forms in order when its last step does. -/
theorem bind
    {α : Type}
    {first : Except ParseError α}
    {next : α → Except ParseError (Json × List Char)}
    (gives : ∀ value, first = .ok value → GivesOrdered (next value)) :
    GivesOrdered (first >>= next) := by
  intro form rest read
  obtain ⟨value, isFirst, further⟩ := bind_eq_ok_iff.mp read
  exact gives value isFirst form rest further

/-- A reader of a word gives the value of the word, or fails. -/
theorem readWord
    {value : Json}
    (ordered : value.IsOrdered)
    (word text : List Char) :
    GivesOrdered (readWord word value text) := by
  fun_induction Json.readWord word value text with
  | case1 rest =>
      exact .ok ordered rest
  | case2 =>
      exact .error .truncated
  | case3 letters letter rest inductionHypothesis =>
      exact inductionHypothesis
  | case4 =>
      exact .error .malformed

end GivesOrdered

/-! ## Steps -/

/-- To insert a value in order into an object in order keeps it in order. -/
theorem IsOrdered.insert
    {members : Members}
    (ordered : IsOrdered (.object members))
    (name : String)
    {value : Json}
    (valueOrdered : value.IsOrdered) :
    IsOrdered (.object (members.insert name value)) := by
  cases ordered with
  | object sorted each =>
      refine .object (Members.isSorted_insert sorted name value) fun member present => ?_
      rcases Members.eq_or_mem_of_mem_insert present with isNew | earlier
      · exact isNew ▸ valueOrdered
      · exact each member earlier

/-- Whether the readers of values, items and members give forms in order, when they take no more
than a number of steps and what they have read so far stands in order. -/
structure ReadersGiveOrdered (steps : Nat) : Prop where
  value : ∀ depth text, GivesOrdered (readValue steps depth text)
  items :
    ∀ depth first reversed text,
      (∀ item ∈ reversed, IsOrdered item) →
      GivesOrdered (readItems steps depth first reversed text)
  members :
    ∀ depth first members text,
      IsOrdered (.object members) →
      GivesOrdered (readMembers steps depth first members text)

namespace ReadersGiveOrdered

theorem zero : ReadersGiveOrdered 0 where
  value depth text := by
    simpa only [readValue] using .error .truncated
  items depth first reversed text _ := by
    simpa only [readItems] using .error .truncated
  members depth first members text _ := by
    simpa only [readMembers] using .error .truncated

variable {steps : Nat}

/-- A reader of values gives forms in order when the readers it calls do. -/
theorem value_succ
    (readers : ReadersGiveOrdered steps)
    (depth : Nat)
    (text : List Char) :
    GivesOrdered (readValue (steps + 1) depth text) := by
  simp only [readValue]
  split
  · exact .error .truncated
  · exact .readWord .null _ _
  · exact .readWord (.boolean true) _ _
  · exact .readWord (.boolean false) _ _
  · exact .bind fun _ _ => .ok (.text _) _
  · split
    · exact .error .malformed
    · exact readers.items _ _ _ _ (List.forall_mem_nil _)
  · split
    · exact .error .malformed
    · exact readers.members _ _ _ _ (.object .nil (List.forall_mem_nil _))
  · exact .bind fun _ _ => .ok (.number _) _
  · exact .bind fun _ _ => .ok (.number _) _

/-- A reader of items gives forms in order when those before and behind are. -/
theorem items_succ
    (readers : ReadersGiveOrdered steps)
    (depth : Nat)
    (first : Bool)
    {reversed : List Json}
    (text : List Char)
    (ordered : ∀ item ∈ reversed, IsOrdered item) :
    GivesOrdered (readItems (steps + 1) depth first reversed text) := by
  unfold readItems
  extract_lets item
  have gives : ∀ front, GivesOrdered (item front) := by
    intro front
    refine .bind fun (value, after) read => ?_
    have valueOrdered : value.IsOrdered := readers.value depth front value after read
    exact readers.items _ _ _ _ (List.forall_mem_cons.mpr ⟨valueOrdered, ordered⟩)
  split
  · exact .error .truncated
  · exact .ok (.array fun item present => ordered item (List.mem_reverse.mp present)) _
  · split
    · exact .error .malformed
    · split
      · exact .error .malformed
      · exact gives _
  · split
    · exact gives _
    · exact .error .malformed

/-- A reader of members gives forms in order, as it inserts each one at its place. -/
theorem members_succ
    (readers : ReadersGiveOrdered steps)
    (depth : Nat)
    (first : Bool)
    {members : Members}
    (text : List Char)
    (ordered : IsOrdered (.object members)) :
    GivesOrdered (readMembers (steps + 1) depth first members text) := by
  unfold readMembers
  extract_lets member
  have gives : ∀ front, GivesOrdered (member front) := by
    intro front
    simp only [member]
    split
    · exact .error .truncated
    · refine .bind fun (name, after) _ => ?_
      dsimp only
      split
      · next behind _ =>
          refine .bind fun (value, after) read => ?_
          have valueOrdered : value.IsOrdered := readers.value depth behind value after read
          exact readers.members _ _ _ _ (ordered.insert name valueOrdered)
      · exact .error _
    · exact .error .malformed
  split
  · exact .error .truncated
  · exact .ok ordered _
  · split
    · exact .error .malformed
    · exact gives _
  · split
    · exact gives _
    · exact .error .malformed

end ReadersGiveOrdered

/-- The readers give forms in order, whatever number of steps they take. -/
theorem readersGiveOrdered (steps : Nat) :
    ReadersGiveOrdered steps := by
  induction steps with
  | zero =>
      exact .zero
  | succ steps inductionHypothesis =>
      exact {
        value := inductionHypothesis.value_succ
        items := fun depth first _ => inductionHypothesis.items_succ depth first
        members := fun depth first _ => inductionHypothesis.members_succ depth first }

/-! ## Texts -/

/-- A form that is read from text stands in order. -/
theorem isOrdered_of_parse
    {text : String}
    {form : Json}
    (read : parse text = .ok form) :
    form.IsOrdered := by
  simp only [parse, bind_eq_ok_iff, Prod.exists] at read
  obtain ⟨value, rest, isValue, atEnd⟩ := read
  split at atEnd
  · cases atEnd
    exact (readersGiveOrdered _).value _ _ _ _ isValue
  · cases atEnd

end Fault.Json
