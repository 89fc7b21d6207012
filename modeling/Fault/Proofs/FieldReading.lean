import Fault.Proofs.Recipes

/-!
# What is read under a key

A field is read from the first occurrence of a chain. What it gives is told by the history of the
definition of that occurrence alone: the value that was stored last under the identity of the key,
when it has the type of the key. Every key that a program defines has an identity of its own, so
what is stored under other keys makes no difference, whatever their names and types are.
-/

namespace Fault

/-! ## The keys of a program -/

/-- Make keys, one after the other. -/
def Store.makeKeys
    (store : Store) :
    List (String × ValueType) → List Key × Store
  | [] => ([], store)
  | (name, type) :: rest =>
      let (key, store) := store.makeKey name type
      let (keys, store) := store.makeKeys rest
      (key :: keys, store)

/-- The keys of a program that defines fields: the common ones, and then one for each field. -/
def Key.defined
    (defaults : Defaults)
    (fields : List (String × ValueType)) :
    List Key :=
  Builtin.keys ++ ((Store.initial defaults).makeKeys fields).1

/-- The keys that a store makes are counted on from those that it has made. -/
theorem Store.identities_makeKeys
    (store : Store)
    (fields : List (String × ValueType)) :
    (store.makeKeys fields).1.map Key.identity =
      List.range' (Builtin.count + store.keys) fields.length := by
  induction fields generalizing store with
  | nil =>
      rfl
  | cons field rest inductionHypothesis =>
      obtain ⟨name, type⟩ := field
      simp only [makeKeys, List.map_cons, inductionHypothesis, makeKey, List.length_cons,
        List.range'_succ, Nat.add_assoc]
      rfl

/-- The common keys and those that are made have one identity after the other. -/
theorem Key.map_identity_defined
    (defaults : Defaults)
    (fields : List (String × ValueType)) :
    (defined defaults fields).map Key.identity = List.range (Builtin.count + fields.length) := by
  have common : Builtin.keys.map Key.identity = List.range Builtin.count := by
    decide
  have made :
      ((Store.initial defaults).makeKeys fields).1.map Key.identity =
        List.range' Builtin.count fields.length :=
    (Store.initial defaults).identities_makeKeys fields
  rw [defined, List.map_append, common, made, List.range_add, List.range'_eq_map_range]

/-- Keys are numbered in the order in which they were made. -/
theorem Key.identity_defined
    {defaults : Defaults}
    {fields : List (String × ValueType)}
    {place : Nat}
    {key : Key}
    (isKey : (defined defaults fields)[place]? = some key) :
    key.identity = place := by
  have numbered := congrArg (·[place]?) (map_identity_defined defaults fields)
  simp only [List.getElem?_map, isKey, Option.map_some] at numbered
  obtain ⟨inRange, isPlace⟩ := List.getElem?_eq_some_iff.mp numbered.symm
  exact isPlace.symm.trans (List.getElem_range inRange)

/-! ## Histories of stores -/

namespace Setting

/-- Whether a setting stores a value under an identity. -/
def storesUnder
    (identity : Nat)
    (setting : Setting) :
    Bool :=
  setting.stored?.any fun stored => stored.1.identity == identity

/-- Whether a setting stores nothing under any of some keys. -/
def storesUnderNone
    (keys : List Key)
    (setting : Setting) :
    Bool :=
  keys.all fun key => !setting.storesUnder key.identity

/-- Whether a value was stored last under an identity. -/
def LastStored
    (identity : Nat)
    (history : List Setting)
    (value : Value) :
    Prop :=
  ∃ before key after,
    history = before ++ .field key value :: after ∧
      key.identity = identity ∧
      ∀ setting ∈ after, setting.storesUnder identity = false

/-- The value that was stored last under an identity. -/
def lastStored?
    (identity : Nat)
    (history : List Setting) :
    Option Value :=
  ((history.filterMap stored?).reverse.find? fun stored => stored.1.identity == identity).map
    Prod.snd

variable {identity : Nat}

/-- A setting stores under an identity when it is a field of such a key. -/
theorem storesUnder_iff {setting : Setting} :
    setting.storesUnder identity = true ↔
      ∃ key value, setting = .field key value ∧ key.identity = identity := by
  cases setting <;> simp [storesUnder]

/-- What is stored last is found. -/
theorem lastStored?_concat_of_stores
    {key : Key}
    (under : key.identity = identity)
    (front : List Setting)
    (value : Value) :
    lastStored? identity (front ++ [.field key value]) = some value := by
  simp [lastStored?, under]

/-- Settings that do not store under an identity leave what was stored under it. -/
theorem lastStored?_append_of_not_stores
    (front : List Setting)
    {back : List Setting}
    (others : ∀ setting ∈ back, setting.storesUnder identity = false) :
    lastStored? identity (front ++ back) = lastStored? identity front := by
  have absent :
      (back.filterMap stored?).reverse.find? (fun stored => stored.1.identity == identity) =
        none := by
    refine List.find?_eq_none.mpr fun stored member => ?_
    obtain ⟨setting, inBack, isStored⟩ := List.mem_filterMap.mp (List.mem_reverse.mp member)
    have rejected := others setting inBack
    rw [storesUnder, isStored] at rejected
    simpa using rejected
  simp [lastStored?, List.find?_append, absent]

/-- The value that is found is the one that was stored last. -/
theorem lastStored?_eq_some_iff
    {history : List Setting}
    {value : Value} :
    lastStored? identity history = some value ↔ LastStored identity history value := by
  constructor
  · intro found
    induction history using List.reverseRecOn with
    | nil =>
        simp [lastStored?] at found
    | append_singleton front last inductionHypothesis =>
        cases stores : last.storesUnder identity with
        | true =>
            obtain ⟨key, other, rfl, under⟩ := storesUnder_iff.mp stores
            rw [lastStored?_concat_of_stores under] at found
            cases found
            exact ⟨front, key, [], rfl, under, by simp⟩
        | false =>
            rw [lastStored?_append_of_not_stores front (by simpa using stores)] at found
            obtain ⟨before, key, after, rfl, under, others⟩ := inductionHypothesis found
            refine ⟨before, key, after ++ [last], by simp, under, ?_⟩
            exact List.forall_mem_append.mpr ⟨others, by simpa using stores⟩
  · rintro ⟨before, key, after, rfl, under, others⟩
    rw [List.append_cons, lastStored?_append_of_not_stores _ others,
      lastStored?_concat_of_stores under]

/-- Nothing is found exactly when no setting stores under the identity. -/
theorem lastStored?_eq_none_iff {history : List Setting} :
    lastStored? identity history = none ↔
      ∀ setting ∈ history, setting.storesUnder identity = false := by
  constructor
  · intro absent setting member
    rw [lastStored?, Option.map_eq_none_iff, List.find?_eq_none] at absent
    cases isStored : setting.stored? with
    | none =>
        simp only [storesUnder, isStored, Option.any_none]
    | some stored =>
        have inHistory : stored ∈ (history.filterMap stored?).reverse :=
          List.mem_reverse.mpr (List.mem_filterMap.mpr ⟨setting, member, isStored⟩)
        simpa only [storesUnder, isStored, Option.any_some, Bool.not_eq_true] using
          absent stored inHistory
  · intro others
    exact lastStored?_append_of_not_stores [] others

/-- A setting stores under one identity at most. -/
theorem not_storesUnder_of_ne
    {setting : Setting}
    {other : Nat}
    (stores : setting.storesUnder identity = true)
    (apart : identity ≠ other) :
    setting.storesUnder other = false := by
  cases isStored : setting.stored? with
  | none =>
      simp only [storesUnder, isStored, Option.any_none]
  | some stored =>
      simp only [storesUnder, isStored, Option.any_some, beq_iff_eq, beq_eq_false_iff_ne]
        at stores ⊢
      exact stores ▸ apart

/-- To leave out settings that store nothing under an identity makes no difference to it. -/
theorem lastStored?_filter
    {keeps : Setting → Bool}
    (kept : ∀ setting : Setting, setting.storesUnder identity = true → keeps setting = true)
    (history : List Setting) :
    lastStored? identity (history.filter keeps) = lastStored? identity history := by
  induction history using List.reverseRecOn with
  | nil =>
      rfl
  | append_singleton front last inductionHypothesis =>
      rw [List.filter_append]
      cases stores : last.storesUnder identity with
      | true =>
          obtain ⟨key, value, rfl, under⟩ := storesUnder_iff.mp stores
          rw [List.filter_cons_of_pos (kept _ stores), List.filter_nil,
            lastStored?_concat_of_stores under, lastStored?_concat_of_stores under]
      | false =>
          have others : ∀ setting ∈ [last], setting.storesUnder identity = false :=
            List.forall_mem_singleton.mpr stores
          rw [lastStored?_append_of_not_stores front others,
            lastStored?_append_of_not_stores _ fun setting member =>
              others setting (List.mem_filter.mp member).1,
            inductionHypothesis]

end Setting

/-- Under an identity, a definition has what its history stored last. -/
theorem Recipe.find?_fields
    (defaults : Defaults)
    (recipe : Recipe)
    (identity : Nat) :
    (recipe.definition defaults).fields.find? identity =
      Setting.lastStored? identity (recipe.history defaults) := by
  rw [Definition.fields, template_definition, Template.configured, Fields.find?_storeAll]
  exact Option.or_none

/-! ## Reading -/

/-- Whether an occurrence is the first one of a chain. -/
def Graph.IsFirstOccurrence
    (graph : Graph)
    (start : ErrorId)
    (error : Occurrence) :
    Prop :=
  ∃ before identity after,
    graph.chain start = before ++ identity :: after ∧
      graph.occurrence? identity = some error ∧
      ∀ other ∈ before, graph.occurrence? other = none

/-- The first occurrence that is found is the first one in the order of the chain. -/
theorem Graph.firstOccurrence?_eq_some_iff
    {graph : Graph}
    {start : ErrorId}
    {error : Occurrence} :
    graph.firstOccurrence? start = some error ↔ graph.IsFirstOccurrence start error :=
  List.findSome?_eq_some_iff

/-- Whether a list of settings is the history of the definition of the first occurrence of a
chain. -/
def Store.IsFirstHistory
    (store : Store)
    (recipes : List Recipe)
    (start : ErrorId)
    (history : List Setting) :
    Prop :=
  ∃ error,
    store.graph.IsFirstOccurrence start error ∧
      ∃ recipe ∈ recipes,
        recipe.definition store.defaults = error.definition ∧
          recipe.history store.defaults = history

namespace Store

variable {store : Store} {recipes : List Recipe} {start : ErrorId} {key : Key}

/-- A key reads what the history of the first occurrence stored last under it, when it accepts it.
-/
theorem IsFirstHistory.read?_eq
    {history : List Setting}
    (first : store.IsFirstHistory recipes start history)
    (key : Key) :
    key.read? store.graph start = (Setting.lastStored? key.identity history).bind key.accept? := by
  obtain ⟨error, isFirst, recipe, _, isMade, rfl⟩ := first
  rw [Key.read?, Graph.firstOccurrence?_eq_some_iff.mpr isFirst, Option.bind_some, ← isMade,
    Fields.get?, Recipe.find?_fields]

/-- A value is read when it was stored last and has the type of the key. -/
theorem IsFirstHistory.read?_eq_some_iff
    {history : List Setting}
    (first : store.IsFirstHistory recipes start history)
    {value : Value} :
    key.read? store.graph start = some value ↔
      Setting.LastStored key.identity history value ∧ value.type = key.type := by
  rw [first.read?_eq, Option.bind_eq_some_iff]
  simp only [Setting.lastStored?_eq_some_iff, Key.accept?, Option.ite_none_right_eq_some,
    Option.some.injEq]
  constructor
  · rintro ⟨_, last, sameType, rfl⟩
    exact ⟨last, sameType⟩
  · rintro ⟨last, sameType⟩
    exact ⟨value, last, sameType, rfl⟩

/-- Nothing is read when nothing was stored, or a value of another type was stored last. -/
theorem IsFirstHistory.read?_eq_none_iff
    {history : List Setting}
    (first : store.IsFirstHistory recipes start history) :
    key.read? store.graph start = none ↔
      (∀ setting ∈ history, setting.storesUnder key.identity = false) ∨
        ∃ value, Setting.LastStored key.identity history value ∧ value.type ≠ key.type := by
  rw [first.read?_eq, ← Setting.lastStored?_eq_none_iff]
  simp only [← Setting.lastStored?_eq_some_iff]
  cases Setting.lastStored? key.identity history <;> simp [Key.accept?]

/-- The first occurrence has a history, which its recipe tells. -/
theorem Knows.exists_isFirstHistory
    (knows : store.Knows recipes)
    {error : Occurrence}
    (isFirst : store.graph.IsFirstOccurrence start error) :
    ∃ history, store.IsFirstHistory recipes start history := by
  obtain ⟨_, identity, _, _, isOccurrence, _⟩ := id isFirst
  obtain ⟨recipe, member, isMade⟩ :=
    knows.owned identity error (Graph.get?_of_occurrence?_eq_some isOccurrence)
  exact ⟨_, error, isFirst, recipe, member, isMade, rfl⟩

end Store

/-- What stores under a key of a program stores under none of the other keys. -/
theorem Key.storesUnderNone_others
    {defaults : Defaults}
    {fields : List (String × ValueType)}
    {place : Nat}
    {key : Key}
    (isKey : (defined defaults fields)[place]? = some key)
    {setting : Setting}
    (stores : setting.storesUnder key.identity = true) :
    setting.storesUnderNone ((defined defaults fields).eraseIdx place) = true := by
  refine List.all_eq_true.mpr fun other member => ?_
  obtain ⟨otherPlace, differs, isOther⟩ := List.mem_eraseIdx_iff_getElem?.mp member
  have apart : key.identity ≠ other.identity := by
    rw [identity_defined isKey, identity_defined isOther]
    exact differs.symm
  rw [Setting.not_storesUnder_of_ne stores apart, Bool.not_false]

/-- What reading a key gives: the last store under the key in the history of the first occurrence
of a chain, whatever was stored under other keys. -/
structure Key.ReadsLastStored
    (key : Key)
    (others : List Key)
    (store : Store)
    (recipes : List Recipe)
    (start : ErrorId) :
    Prop where
  found :
    ∀ value,
      key.read? store.graph start = some value ↔
        ∃ history,
          store.IsFirstHistory recipes start history ∧
            Setting.LastStored key.identity history value ∧
            value.type = key.type
  missing :
    key.read? store.graph start = none ↔
      (∀ error, ¬store.graph.IsFirstOccurrence start error) ∨
        ∃ history,
          store.IsFirstHistory recipes start history ∧
            ((∀ setting ∈ history, setting.storesUnder key.identity = false) ∨
              ∃ value, Setting.LastStored key.identity history value ∧ value.type ≠ key.type)
  /-- Errors whose histories differ by nothing but stores under other keys are read alike. -/
  untouched :
    ∀ history (otherStore : Store) otherRecipes otherStart otherHistory,
      store.IsFirstHistory recipes start history →
      otherStore.IsFirstHistory otherRecipes otherStart otherHistory →
      history.filter (Setting.storesUnderNone others) =
        otherHistory.filter (Setting.storesUnderNone others) →
      key.read? store.graph start = key.read? otherStore.graph otherStart
  answered :
    ∀ value,
      key.read? store.graph start = some value →
      key.readOrZero store.graph start = value ∧
        (∀ default, key.readOr store.graph start default = value) ∧
        ∀ fallback, key.readOrElse store.graph start fallback = value
  unanswered :
    key.read? store.graph start = none →
    key.readOrZero store.graph start = key.zero ∧
      (∀ default, key.readOr store.graph start default = default) ∧
      ∀ fallback, key.readOrElse store.graph start fallback = fallback start

/-- Reading a key that a program defined gives the last store under it. -/
theorem Key.read?_readsLastStored
    {store : Store}
    {recipes : List Recipe}
    {fields : List (String × ValueType)}
    {place : Nat}
    {key : Key}
    (knows : store.Knows recipes)
    (isKey : (defined store.defaults fields)[place]? = some key)
    (start : ErrorId) :
    key.ReadsLastStored ((defined store.defaults fields).eraseIdx place) store recipes start where
  found value := by
    constructor
    · intro read
      obtain ⟨error, isFirst, _⟩ := Option.bind_eq_some_iff.mp read
      obtain ⟨history, first⟩ :=
        knows.exists_isFirstHistory (Graph.firstOccurrence?_eq_some_iff.mp isFirst)
      exact ⟨history, first, first.read?_eq_some_iff.mp read⟩
    · intro ⟨history, first, last⟩
      exact first.read?_eq_some_iff.mpr last
  missing := by
    constructor
    · intro notRead
      by_cases isFirst : ∃ error, store.graph.IsFirstOccurrence start error
      · obtain ⟨error, isFirst⟩ := isFirst
        obtain ⟨history, first⟩ := knows.exists_isFirstHistory isFirst
        exact .inr ⟨history, first, first.read?_eq_none_iff.mp notRead⟩
      · exact .inl (not_exists.mp isFirst)
    · rintro (noOccurrence | ⟨history, first, absent⟩)
      · have nothing : store.graph.firstOccurrence? start = none := by
          refine Option.eq_none_iff_forall_ne_some.mpr fun error found => ?_
          exact noOccurrence error (Graph.firstOccurrence?_eq_some_iff.mp found)
        rw [read?, nothing, Option.bind_none]
      · exact first.read?_eq_none_iff.mpr absent
  untouched history otherStore otherRecipes otherStart otherHistory first otherFirst same := by
    let keeps := Setting.storesUnderNone ((defined store.defaults fields).eraseIdx place)
    have kept :
        ∀ setting : Setting, setting.storesUnder key.identity = true → keeps setting = true :=
      fun _ => storesUnderNone_others isKey
    calc
      key.read? store.graph start
      _ = (Setting.lastStored? key.identity (history.filter keeps)).bind key.accept? := by
          rw [first.read?_eq, Setting.lastStored?_filter kept]
      _ = (Setting.lastStored? key.identity (otherHistory.filter keeps)).bind key.accept? :=
          congrArg (fun stores => (Setting.lastStored? key.identity stores).bind key.accept?) same
      _ = key.read? otherStore.graph otherStart := by
          rw [otherFirst.read?_eq, Setting.lastStored?_filter kept]
  answered value read := by
    simp [readOrZero, readOr, readOrElse, read]
  unanswered notRead := by
    simp [readOrZero, readOr, readOrElse, notRead]

/-- The fields of a program that defines a name of one type twice. -/
def namesakes : List (String × ValueType) :=
  [("user", .text), ("user", .text)]

/-- The key of the first one of them. -/
def firstNamesake : Key :=
  .made 0 "user" .text

/-- A program that stores under both keys, and creates an error. -/
def namesakeProgram : Program :=
  .run .standard
    [.declare ⟨"net"⟩ [.field firstNamesake (.text "a")],
      .derive 0 [.field (.made 1 "user" .text) (.text "b")],
      .create 1 [] "m"]

/-- Of two keys of one name, each reads what was stored last under itself. -/
theorem read?_readsLastStored_namesakes :
    ∃ recipes,
      namesakeProgram.store.Knows recipes ∧
        (Key.defined namesakeProgram.store.defaults namesakes)[9]? = some firstNamesake ∧
        firstNamesake.ReadsLastStored
          ((Key.defined namesakeProgram.store.defaults namesakes).eraseIdx 9)
          namesakeProgram.store recipes ⟨0⟩ ∧
        firstNamesake.read? namesakeProgram.graph ⟨0⟩ = some (.text "a") := by
  obtain ⟨recipes, knows, _⟩ :
      ∃ recipes, namesakeProgram.store.Knows recipes ∧ _ :=
    Program.exists_knows_run _ _
  have isKey :
      (Key.defined namesakeProgram.store.defaults namesakes)[9]? = some firstNamesake := by
    rfl
  exact ⟨recipes, knows, isKey, Key.read?_readsLastStored knows isKey ⟨0⟩, by cbv⟩

end Fault
