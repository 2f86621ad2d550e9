import ChatAgents.Json.Numeral
import ChatAgents.Proofs.HandlerRuns
set_option autoImplicit false

namespace ChatAgents

namespace Json

def Sorted (members : List (String × Json)) : Prop := members.Pairwise fun x y => x.1 < y.1

theorem mem_insertMember {key : String} {value : Json} {members : List (String × Json)}
    {m : String × Json} (h : m ∈ insertMember key value members) :
    m = (key, value) ∨ m ∈ members := by
  induction members with
  | nil => exact .inl (List.mem_singleton.1 h)
  | cons first rest ih =>
    rw [insertMember] at h
    split at h
    · exact List.mem_cons.1 h
    · split at h
      · rcases List.mem_cons.1 h with same | later
        · exact .inr (same ▸ List.mem_cons_self)
        · exact (ih later).imp_right (List.mem_cons_of_mem first)
      · exact (List.mem_cons.1 h).imp_right (List.mem_cons_of_mem first)

theorem sorted_insertMember (key : String) (value : Json) {members : List (String × Json)}
    (sorted : Sorted members) : Sorted (insertMember key value members) := by
  induction members with
  | nil => exact List.pairwise_singleton _ _
  | cons first rest ih =>
    have behind := List.pairwise_cons.1 sorted
    rw [insertMember]
    split
    · next before =>
      refine List.pairwise_cons.2 ⟨?_, sorted⟩
      intro m member
      rcases List.mem_cons.1 member with rfl | later
      · exact before
      · exact String.lt_trans before (behind.1 m later)
    · split
      · next after =>
        refine List.pairwise_cons.2 ⟨?_, ih behind.2⟩
        intro m member
        rcases mem_insertMember member with rfl | later
        · exact after
        · exact behind.1 m later
      · next not_before not_after =>
        have same : key = first.1 :=
          String.le_antisymm (String.not_lt.1 not_after) (String.not_lt.1 not_before)
        refine List.pairwise_cons.2 ⟨?_, behind.2⟩
        intro m member
        rw [same]
        exact behind.1 m member

theorem sorted_sortMembers (members : List (String × Json)) : Sorted (sortMembers members) := by
  have keeps : ∀ sorted, Sorted sorted →
      Sorted (members.foldl (fun sorted m => insertMember m.1 m.2 sorted) sorted) := by
    induction members with
    | nil => exact fun _ => id
    | cons m rest ih => exact fun sorted h => ih _ (sorted_insertMember m.1 m.2 h)
  exact keeps [] List.Pairwise.nil

theorem sorted_of_canonical {v : Json} {members : List (String × Json)}
    (h : v.canonical = .obj members) : Sorted members := by
  cases v with
  | obj written =>
    rw [canonical] at h
    obtain rfl := Json.obj.inj h
    exact sorted_sortMembers _
  | _ => simp [canonical] at h

/-- What is found first among members in order is found at the smallest key. -/
theorem findSome?_eq_some_iff_of_sorted {α : Type} {members : List (String × Json)}
    (sorted : Sorted members) (found? : String × Json → Option α) (a : α) :
    members.findSome? found? = some a ↔ ∃ m ∈ members, found? m = some a ∧
      ∀ other ∈ members, (found? other).isSome = true → m.1 ≤ other.1 := by
  rw [List.findSome?_eq_some_iff]
  constructor
  · rintro ⟨before, m, after, rfl, here, none_before⟩
    have behind := (List.pairwise_cons.1 (List.pairwise_append.1 sorted).2.1).1
    refine ⟨m, by simp, here, ?_⟩
    intro other member found
    rcases List.mem_append.1 member with earlier | later
    · rw [none_before other earlier] at found
      cases found
    · rcases List.mem_cons.1 later with rfl | later
      · exact String.le_refl _
      · exact String.lt_asymm (behind other later)
  · rintro ⟨m, member, here, least⟩
    obtain ⟨before, after, rfl⟩ := List.append_of_mem member
    refine ⟨before, m, after, rfl, here, ?_⟩
    intro other earlier
    have smaller : other.1 < m.1 :=
      (List.pairwise_append.1 sorted).2.2 other earlier m List.mem_cons_self
    rw [Option.eq_none_iff_forall_ne_some]
    intro b found
    have not_smaller : m.1 ≤ other.1 :=
      least other (List.mem_append_left _ earlier) (by rw [found]; rfl)
    exact not_smaller smaller

end Json

/-- The types of values, by the names that schemas use. A name that is no type is met by any value.
-/
inductive Json.IsOf : Json → String → Prop
  | string (s : String) : IsOf (.str s) "string"
  | integer (n : Int) : IsOf (.int n) "integer"
  | whole (n : Int) : IsOf (.int n) "number"
  | number (x : Numeric.Binary) : IsOf (.float x) "number"
  | boolean (b : Bool) : IsOf (.bool b) "boolean"
  | object (members : List (String × Json)) : IsOf (.obj members) "object"
  | array (items : List Json) : IsOf (.arr items) "array"
  | null : IsOf .null "null"
  | unnamed {v : Json} {type : String} (unknown : type ∉ typeNames) : IsOf v type

theorem Json.hasType_iff (v : Json) (type : String) : v.hasType type = true ↔ v.IsOf type := by
  have named : v.hasType type = true ↔ type ∈ v.types ∨ type ∉ typeNames := by
    simp [hasType]
  rw [named]
  constructor
  · rintro (listed | unknown)
    · cases v with
      | int n =>
        rcases List.mem_cons.1 listed with rfl | later
        · exact .integer n
        · obtain rfl := List.mem_singleton.1 later
          exact .whole n
      | null | bool _ | float _ | str _ | arr _ | obj _ =>
        obtain rfl := List.mem_singleton.1 listed
        constructor
    · exact .unnamed unknown
  · intro h
    cases h with
    | unnamed unknown => exact .inr unknown
    | _ => exact .inl (by simp [types])

namespace Schema

variable (s : Schema)

def required : List String :=
  (((s.json.get? "required").bind Json.items?).getD []).filterMap Json.string?

def Closed : Prop := s.json.get? "additionalProperties" = some (.bool false)

def property? (key : String) : Option Json := (s.json.get? "properties").bind (·.get? key)

def type? (key : String) : Option String :=
  (s.property? key).bind fun p => (p.get? "type").bind Json.string?

def Types (m : String × Json) : Prop := ∀ type, s.type? m.1 = some type → m.2.IsOf type

/-- The members of an object meet the schema. -/
structure Accepts (args : List (String × Json)) : Prop where
  complete : ∀ name ∈ s.required, name ∈ args.map Prod.fst
  known : s.Closed → ∀ key ∈ args.map Prod.fst, s.property? key ≠ none
  typed : ∀ m ∈ args, s.Types m

/-- What arguments are refused for: that they are no object, or else the first required name that is
missing, or else the smallest key that is not allowed, or else the smallest one with a value of the
wrong type. -/
inductive Refuses : Json → ArgumentFault → Prop
  | notObject {v : Json} (other : ∀ args, v ≠ .obj args) : Refuses v .notObject
  | missing {args : List (String × Json)} {before after : List String} {name : String}
      (split : s.required = before ++ name :: after)
      (earlier : ∀ n ∈ before, n ∈ args.map Prod.fst) (absent : name ∉ args.map Prod.fst) :
      Refuses (.obj args) (.missing name)
  | unknown {args : List (String × Json)} {key : String}
      (complete : ∀ name ∈ s.required, name ∈ args.map Prod.fst) (closed : s.Closed)
      (given : key ∈ args.map Prod.fst) (unnamed : s.property? key = none)
      (least : ∀ k ∈ args.map Prod.fst, s.property? k = none → key ≤ k) :
      Refuses (.obj args) (.unknown key)
  | mistyped {args : List (String × Json)} {key type : String} {value : Json}
      (complete : ∀ name ∈ s.required, name ∈ args.map Prod.fst)
      (known : s.Closed → ∀ key ∈ args.map Prod.fst, s.property? key ≠ none)
      (given : (key, value) ∈ args) (declared : s.type? key = some type)
      (wrong : ¬ value.IsOf type) (least : ∀ m ∈ args, ¬ s.Types m → key ≤ m.1) :
      Refuses (.obj args) (.mistyped key type)

def Admits (v : Json) : Prop := ∃ args, v = .obj args ∧ s.Accepts args

end Schema

theorem all_string?_iff (items : List Json) :
    items.all (·.string?.isSome) = true ↔ ∃ names : List String, items = names.map .str := by
  constructor
  · intro texts
    induction items with
    | nil => exact ⟨[], rfl⟩
    | cons item rest ih =>
      rw [List.all_cons, Bool.and_eq_true] at texts
      obtain ⟨names, rfl⟩ := ih texts.2
      cases item with
      | str name => exact ⟨name :: names, rfl⟩
      | _ => simp [Json.string?] at texts
  · rintro ⟨names, rfl⟩
    simp [Json.string?]

theorem string?_eq_some_iff {v : Json} {text : String} :
    v.string? = some text ↔ v = .str text := by
  cases v <;> simp [Json.string?]

/-- A schema is an object of the type object, and gives the names of required arguments as a list of
texts if it gives any. -/
theorem checkSchema_eq_ok_iff (v : Json) :
    checkSchema v = .ok () ↔ (∃ members, v = .obj members) ∧
      v.get? "type" = some (.str "object") ∧
      ∀ r, v.get? "required" = some r → ∃ names : List String, r = .arr (names.map .str) := by
  have typed : (v.get? "type").bind Json.string? = some "object" ↔
      v.get? "type" = some (.str "object") := by
    rw [Option.bind_eq_some_iff]
    simp [string?_eq_some_iff]
  cases v with
  | obj members =>
    rw [checkSchema]
    by_cases object : (Json.obj members).get? "type" = some (.str "object")
    · simp only [Json.members?, typed.2 object, ne_eq, not_true_eq_false, if_false]
      cases (Json.obj members).get? "required" with
      | none => simp [object]
      | some r =>
        cases r with
        | arr items =>
          by_cases texts : items.all (·.string?.isSome) = true
          · obtain ⟨names, rfl⟩ := (all_string?_iff items).1 texts
            simp [Json.items?, texts, object]
          · have untold := (not_congr (all_string?_iff items)).1 texts
            simpa [Json.items?, texts, object] using untold
        | _ => simp [Json.items?]
    · simp only [Json.members?, ne_eq, (not_congr typed).2 object, not_false_eq_true, if_true]
      simp [object]
  | _ => simp [checkSchema, Json.members?]

namespace Schema

theorem object_of_accepted (s : Schema) : ∃ members, s.json = .obj members :=
  ((checkSchema_eq_ok_iff s.json).1 s.accepted).1

theorem required_of_accepted (s : Schema) {r : Json} (h : s.json.get? "required" = some r) :
    r = .arr (s.required.map .str) := by
  obtain ⟨names, rfl⟩ := ((checkSchema_eq_ok_iff s.json).1 s.accepted).2.2 r h
  rw [required, h]
  simp [Json.items?, List.filterMap_map, Function.comp_def, Json.string?]

section

variable {s : Schema} {args : List (String × Json)}

theorem hasMember_iff (key : String) : hasMember args key = true ↔ key ∈ args.map Prod.fst := by
  simp [hasMember]

theorem firstMissing?_eq (s : Schema) (args : List (String × Json)) :
    firstMissing? s.json args = s.required.find? fun name => !hasMember args name := by
  rw [firstMissing?, required]
  induction ((s.json.get? "required").bind Json.items?).getD [] with
  | nil => rfl
  | cons entry rest ih =>
    cases entry with
    | str name =>
      have told : (Json.str name).string? = some name := rfl
      rw [List.findSome?_cons, List.filterMap_cons_some told, List.find?_cons, told, ih,
        Option.filter_some]
      cases hasMember args name <;> rfl
    | _ => simpa [Json.string?] using ih

theorem firstMissing?_eq_none_iff :
    firstMissing? s.json args = none ↔ ∀ name ∈ s.required, name ∈ args.map Prod.fst := by
  rw [firstMissing?_eq, List.find?_eq_none]
  simp only [Bool.not_eq_true, Bool.not_eq_false', hasMember_iff]

theorem firstMissing?_eq_some_iff (name : String) :
    firstMissing? s.json args = some name ↔ ∃ before after,
      s.required = before ++ name :: after ∧ (∀ n ∈ before, n ∈ args.map Prod.fst) ∧
      name ∉ args.map Prod.fst := by
  rw [firstMissing?_eq, List.find?_eq_some_iff_append]
  simp only [Bool.not_not, Bool.not_eq_true', ← Bool.not_eq_true, hasMember_iff]
  constructor
  · rintro ⟨absent, before, after, split, earlier⟩
    exact ⟨before, after, split, earlier, absent⟩
  · rintro ⟨before, after, split, earlier, absent⟩
    exact ⟨absent, before, after, split, earlier⟩

theorem lookup_properties (s : Schema) (key : String) :
    (properties s.json).lookup key = s.property? key := by
  have found : ∀ members : List (String × Json),
      members.lookup key = (members.find? (·.1 == key)).map (·.2) := by
    intro members
    induction members with
    | nil => rfl
    | cons m rest ih =>
      rw [List.lookup_cons, List.find?_cons, ih, BEq.comm]
      cases m.1 == key <;> rfl
  rw [properties, property?]
  cases s.json.get? "properties" with
  | none => rfl
  | some p =>
    cases p with
    | obj members => exact found members
    | _ => rfl

theorem hasMember_properties_iff (s : Schema) (key : String) :
    hasMember (properties s.json) key = true ↔ s.property? key ≠ none := by
  rw [hasMember_iff, ← lookup_properties, ne_eq, List.lookup_eq_none_iff]
  simp

theorem closed_iff (s : Schema) :
    (s.json.get? "additionalProperties").bind Json.bool? = some false ↔ s.Closed := by
  rw [Closed, Option.bind_eq_some_iff]
  constructor
  · rintro ⟨v, given, falsity⟩
    cases v with
    | bool b =>
      obtain rfl := Option.some.inj falsity
      exact given
    | _ => cases falsity
  · exact fun given => ⟨_, given, rfl⟩

theorem firstUnknown?_eq_none_iff :
    firstUnknown? s.json args = none ↔
      (s.Closed → ∀ key ∈ args.map Prod.fst, s.property? key ≠ none) := by
  rw [firstUnknown?, ← closed_iff]
  split
  · next closed => simp [closed, hasMember_properties_iff]
  · next not_closed => simp [not_closed]

theorem firstUnknown?_eq_some_iff (sorted : Json.Sorted args) (key : String) :
    firstUnknown? s.json args = some key ↔ s.Closed ∧ key ∈ args.map Prod.fst ∧
      s.property? key = none ∧ ∀ k ∈ args.map Prod.fst, s.property? k = none → key ≤ k := by
  let found? (m : String × Json) : Option String :=
    if s.property? m.1 = none then some m.1 else none
  have found_iff : ∀ m k, found? m = some k ↔ s.property? m.1 = none ∧ m.1 = k := by
    intro m k
    simp [found?]
  have first : (args.find? fun m => !hasMember (properties s.json) m.1).map (·.1) =
      args.findSome? found? := by
    rw [← List.findSome?_guard, List.map_findSome?]
    congr 1
    funext m
    have named := hasMember_properties_iff s m.1
    by_cases unnamed : s.property? m.1 = none <;> simp_all [found?, Option.guard]
  rw [firstUnknown?, ← closed_iff]
  split
  · next closed =>
    have smallest := Json.findSome?_eq_some_iff_of_sorted sorted found? key
    rw [first, smallest]
    simp only [closed, true_and, found_iff, List.mem_map, Option.isSome_iff_exists]
    constructor
    · rintro ⟨m, member, ⟨unnamed, rfl⟩, least⟩
      refine ⟨⟨m, member, rfl⟩, unnamed, ?_⟩
      rintro _ ⟨other, among, rfl⟩ unnamed_too
      exact least other among ⟨_, unnamed_too, rfl⟩
    · rintro ⟨⟨m, member, rfl⟩, unnamed, least⟩
      refine ⟨m, member, ⟨unnamed, rfl⟩, ?_⟩
      rintro other among ⟨_, unnamed_too, rfl⟩
      exact least _ ⟨other, among, rfl⟩ unnamed_too
  · next not_closed => simp [not_closed]

def mistype? (s : Schema) (m : String × Json) : Option (String × String) :=
  (s.type? m.1).bind fun type => if m.2.hasType type then none else some (m.1, type)

theorem firstMistyped?_eq (s : Schema) (args : List (String × Json)) :
    firstMistyped? s.json args = args.findSome? s.mistype? := by
  rw [firstMistyped?]
  congr 1
  funext ⟨key, value⟩
  rw [mistype?, type?, ← lookup_properties]
  simp only [Option.bind_eq_bind, Option.bind_assoc]

theorem mistype?_eq_some_iff {m : String × Json} {key type : String} :
    s.mistype? m = some (key, type) ↔
      m.1 = key ∧ s.type? m.1 = some type ∧ ¬ m.2.IsOf type := by
  rw [mistype?, Option.bind_eq_some_iff]
  constructor
  · rintro ⟨declared, told, said⟩
    split at said
    · cases said
    · next wrong =>
      cases said
      exact ⟨rfl, told, (not_congr (m.2.hasType_iff _)).1 wrong⟩
  · rintro ⟨rfl, told, wrong⟩
    exact ⟨type, told, if_neg ((not_congr (m.2.hasType_iff type)).2 wrong)⟩

theorem isSome_mistype?_iff {m : String × Json} :
    (s.mistype? m).isSome = true ↔ ¬ s.Types m := by
  rw [Option.isSome_iff_exists, Types]
  constructor
  · rintro ⟨⟨key, type⟩, said⟩ typed
    have told := mistype?_eq_some_iff.1 said
    exact told.2.2 (typed type told.2.1)
  · intro untyped
    push Not at untyped
    obtain ⟨type, declared, wrong⟩ := untyped
    exact ⟨(m.1, type), mistype?_eq_some_iff.2 ⟨rfl, declared, wrong⟩⟩

theorem firstMistyped?_eq_none_iff :
    firstMistyped? s.json args = none ↔ ∀ m ∈ args, s.Types m := by
  rw [firstMistyped?_eq, List.findSome?_eq_none_iff]
  refine forall₂_congr fun m _ => ?_
  rw [← Option.not_isSome_iff_eq_none, isSome_mistype?_iff, not_not]

theorem firstMistyped?_eq_some_iff (sorted : Json.Sorted args) (key type : String) :
    firstMistyped? s.json args = some (key, type) ↔ ∃ value, (key, value) ∈ args ∧
      s.type? key = some type ∧ ¬ value.IsOf type ∧ ∀ m ∈ args, ¬ s.Types m → key ≤ m.1 := by
  rw [firstMistyped?_eq, Json.findSome?_eq_some_iff_of_sorted sorted]
  simp only [mistype?_eq_some_iff, isSome_mistype?_iff]
  constructor
  · rintro ⟨⟨_, value⟩, given, ⟨rfl, declared, wrong⟩, least⟩
    exact ⟨value, given, declared, wrong, least⟩
  · rintro ⟨value, given, declared, wrong, least⟩
    exact ⟨(key, value), given, ⟨rfl, declared, wrong⟩, least⟩

end

section

variable {s : Schema}

theorem not_admits_of_refuses {v : Json} {fault : ArgumentFault} (h : s.Refuses v fault) :
    ¬ s.Admits v := by
  rintro ⟨args, rfl, accepts⟩
  cases h with
  | notObject other => exact other args rfl
  | missing split _ absent => exact absent (accepts.complete _ (by rw [split]; simp))
  | unknown _ closed given unnamed _ => exact accepts.known closed _ given unnamed
  | mistyped _ _ given declared wrong _ => exact wrong (accepts.typed _ given _ declared)

theorem checkArguments_obj (s : Schema) (args : List (String × Json)) :
    checkArguments s.json (.obj args) =
      match firstMissing? s.json args with
      | some name => .error (.missing name)
      | none =>
        match firstUnknown? s.json args with
        | some key => .error (.unknown key)
        | none =>
          match firstMistyped? s.json args with
          | some (key, type) => .error (.mistyped key type)
          | none => .ok () := by
  obtain ⟨members, object⟩ := s.object_of_accepted
  have given : (Json.obj args).members? = some args := rfl
  have some_members : ¬ s.json.members?.isNone = true := by simp [object, Json.members?]
  rw [checkArguments, given]
  exact if_neg some_members

/-- A check goes through with arguments that meet the schema, and ends at the fault that it refuses
others for. -/
theorem checkArguments_cases (s : Schema) (v : Json) :
    (checkArguments s.json v.canonical = .ok () ∧ s.Admits v.canonical) ∨
      ∃ fault, checkArguments s.json v.canonical = .error fault ∧
        s.Refuses v.canonical fault := by
  cases canonical : v.canonical with
  | obj args =>
    have sorted := Json.sorted_of_canonical canonical
    rw [checkArguments_obj]
    cases missing : firstMissing? s.json args with
    | some name =>
      obtain ⟨before, after, split, earlier, absent⟩ := (firstMissing?_eq_some_iff name).1 missing
      exact .inr ⟨_, rfl, .missing split earlier absent⟩
    | none =>
      have complete := firstMissing?_eq_none_iff.1 missing
      cases unknown : firstUnknown? s.json args with
      | some key =>
        obtain ⟨closed, given, unnamed, least⟩ := (firstUnknown?_eq_some_iff sorted key).1 unknown
        exact .inr ⟨_, rfl, .unknown complete closed given unnamed least⟩
      | none =>
        have known := firstUnknown?_eq_none_iff.1 unknown
        cases mistyped : firstMistyped? s.json args with
        | some said =>
          obtain ⟨value, given, declared, wrong, least⟩ :=
            (firstMistyped?_eq_some_iff sorted said.1 said.2).1 mistyped
          exact .inr ⟨_, rfl, .mistyped complete known given declared wrong least⟩
        | none =>
          have typed := firstMistyped?_eq_none_iff.1 mistyped
          exact .inl ⟨rfl, args, rfl, complete, known, typed⟩
  | _ =>
    refine .inr ⟨.notObject, rfl, .notObject ?_⟩
    intro args same
    cases same

theorem checkArguments_eq_ok_iff (s : Schema) (v : Json) :
    checkArguments s.json v.canonical = .ok () ↔ s.Admits v.canonical := by
  rcases checkArguments_cases s v with ⟨passed, admits⟩ | ⟨fault, failed, refuses⟩
  · simp [passed, admits]
  · simp [failed, not_admits_of_refuses refuses]

theorem refuses_of_not_admits {v : Json} (h : ¬ s.Admits v.canonical) :
    ∃ fault, s.Refuses v.canonical fault := by
  rcases checkArguments_cases s v with ⟨_, admits⟩ | ⟨fault, _, refuses⟩
  · exact absurd admits h
  · exact ⟨fault, refuses⟩

theorem checkArguments_of_refuses {v : Json} {fault : ArgumentFault}
    (h : s.Refuses v.canonical fault) : checkArguments s.json v.canonical = .error fault := by
  generalize canonical : v.canonical = w at h
  cases h with
  | notObject other =>
    cases w with
    | obj args => exact absurd rfl (other args)
    | _ => rfl
  | missing split earlier absent =>
    have missing := (firstMissing?_eq_some_iff _).2 ⟨_, _, split, earlier, absent⟩
    rw [checkArguments_obj, missing]
  | unknown complete closed given unnamed least =>
    have sorted := Json.sorted_of_canonical canonical
    have complete := firstMissing?_eq_none_iff.2 complete
    have unknown := (firstUnknown?_eq_some_iff sorted _).2 ⟨closed, given, unnamed, least⟩
    rw [checkArguments_obj, complete, unknown]
  | mistyped complete known given declared wrong least =>
    have sorted := Json.sorted_of_canonical canonical
    have complete := firstMissing?_eq_none_iff.2 complete
    have known := firstUnknown?_eq_none_iff.2 known
    have mistyped :=
      (firstMistyped?_eq_some_iff sorted _ _).2 ⟨_, given, declared, wrong, least⟩
    rw [checkArguments_obj, complete, known, mistyped]

theorem checkArguments_ne_schemaNotObject (s : Schema) (v : Json) :
    checkArguments s.json v ≠ .error .schemaNotObject := by
  cases v with
  | obj args =>
    rw [checkArguments_obj]
    split
    · simp
    · split
      · simp
      · split <;> simp
  | _ => simp [checkArguments, Json.members?]

end
end Schema

namespace Json

theorem gather_lt {significand : Nat} (fits : significand < UInt64.size) (digits : List Nat) :
    (gather significand digits).1 < UInt64.size := by
  induction digits generalizing significand with
  | nil => exact fits
  | cons d rest ih =>
    rw [gather]
    split
    · next still => exact ih still
    · exact fits

theorem bounds_of_number? {cs : List Char} {n : Int} (h : number? cs = some (.int n)) :
    -(UInt64.size / 2 : Nat) ≤ n ∧ n < UInt64.size := by
  obtain ⟨numeral, _, read⟩ := Option.bind_eq_some_iff.1 h
  have fits : (gather 0 numeral.whole).1 < UInt64.size := gather_lt (by decide) numeral.whole
  have size : UInt64.size = 2 ^ 64 := rfl
  simp only [Numeral.value?] at read
  split at read
  · split at read
    · cases read
      omega
    · split at read
      · next bounded =>
        cases read
        omega
      · obtain ⟨x, _, other⟩ := Option.map_eq_some_iff.1 read
        cases other
  · obtain ⟨x, _, other⟩ := Option.map_eq_some_iff.1 read
    cases other

end Json

namespace Tool

variable (t : Tool) (args : Json)

/-- The handler runs on the arguments: its result is that of the tool, and what it does, whatever it
does, is done once. -/
structure Handles : Prop where
  outcome : t.execute args = t.handler args
  effects : ∀ {m : Type → Type} [Monad m] (handle : Tool → Json → m (Except ToolError String)),
    t.executeBy handle args = handle t args

/-- The arguments are refused for a fault, and no handler does anything. -/
structure Rejects (fault : ArgumentFault) : Prop where
  outcome : t.execute args = .error (.invalidArguments t.name fault.message)
  effects : ∀ {m : Type → Type} [Monad m] (handle : Tool → Json → m (Except ToolError String)),
    t.executeBy handle args = pure (.error (.invalidArguments t.name fault.message))

variable {t args}

theorem handles_of_checked (h : checkArguments t.schema.json args = .ok ()) : t.Handles args where
  outcome := by rw [execute, h]
  effects := by
    intro m _ handle
    rw [executeBy, h]

theorem rejects_of_checked {fault : ArgumentFault}
    (h : checkArguments t.schema.json args = .error fault) : t.Rejects args fault where
  outcome := by rw [execute, h]
  effects := by
    intro m _ handle
    rw [executeBy, h]

theorem not_handles_of_rejects {fault : ArgumentFault} (h : t.Rejects args fault) :
    ¬ t.Handles args := by
  intro handles
  have ran := handles.effects Tool.recorded
  rw [h.effects Tool.recorded] at ran
  have logs : ([] : List HandlerRun) = [⟨t, args⟩] := congrArg Prod.snd (congrFun ran [])
  cases logs

theorem withSchema_eq_ok_iff {json : Json} {u : Tool} :
    t.withSchema json = .ok u ↔ ∃ accepted, u = { t with schema := ⟨json, accepted⟩ } := by
  rw [withSchema, Schema.ofJson]
  split
  · next accepted =>
    constructor
    · intro made
      exact ⟨accepted, (Except.ok.inj made).symm⟩
    · rintro ⟨_, rfl⟩
      rfl
  · next refused =>
    constructor
    · intro made
      cases made
    · rintro ⟨accepted, _⟩
      rw [accepted] at refused
      cases refused

/-- The handler of a tool runs on a value, once and as it is, exactly if the value meets the schema
that the tool was given. Any other value is refused for a fault, which is the first in order, and no
handler runs. As a schema is an object and its required names are texts, nothing is refused for the
schema and no required name is passed over; and an integer is one of 64 bits. -/
theorem execute_by_schema (t : Tool) (v : Json) :
    (t.Handles v.canonical ↔ t.schema.Admits v.canonical) ∧
    (¬ t.schema.Admits v.canonical ↔ ∃ fault, t.schema.Refuses v.canonical fault) ∧
    (∀ fault, t.schema.Refuses v.canonical fault → t.Rejects v.canonical fault) ∧
    (∀ json u, t.withSchema json = .ok u ↔
      ∃ accepted, u = { t with schema := ⟨json, accepted⟩ }) ∧
    (∀ args, checkArguments t.schema.json args ≠ .error .schemaNotObject) ∧
    (∀ r, t.schema.json.get? "required" = some r → r = .arr (t.schema.required.map .str)) ∧
    ∀ cs n, Json.number? cs = some (.int n) → -(UInt64.size / 2 : Nat) ≤ n ∧ n < UInt64.size := by
  have rejected : ∀ fault, t.schema.Refuses v.canonical fault → t.Rejects v.canonical fault := by
    intro fault refuses
    exact rejects_of_checked (Schema.checkArguments_of_refuses refuses)
  refine ⟨⟨?_, ?_⟩, ⟨?_, ?_⟩, rejected, fun _ _ => withSchema_eq_ok_iff,
    t.schema.checkArguments_ne_schemaNotObject, fun _ => t.schema.required_of_accepted,
    fun _ _ => Json.bounds_of_number?⟩
  · intro handles
    by_contra other
    obtain ⟨fault, refuses⟩ := Schema.refuses_of_not_admits other
    exact not_handles_of_rejects (rejected fault refuses) handles
  · intro admits
    exact handles_of_checked ((Schema.checkArguments_eq_ok_iff t.schema v).2 admits)
  · exact Schema.refuses_of_not_admits
  · rintro ⟨fault, refuses⟩
    exact Schema.not_admits_of_refuses refuses

end Tool

end ChatAgents
