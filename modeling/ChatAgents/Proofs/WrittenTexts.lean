import ChatAgents.Hosting.Thread
set_option autoImplicit false

namespace ChatAgents.Hosting

/-- A text with its annotations unread. -/
structure WrittenText where
  value : String
  annotations : List Json

structure WrittenMessage where
  role : String
  texts : List WrittenText

def citationsOf (annotations : List Json) : List Citation :=
  (annotations.filterMap readAnnotation?).filterMap id

def ReadableAnnotations (annotations : List Json) : Prop :=
  ∀ v ∈ annotations, (readAnnotation? v).isSome

namespace WrittenText

def cited (t : WrittenText) : CitedText := ⟨t.value, citationsOf t.annotations⟩

def Readable (t : WrittenText) : Prop := ReadableAnnotations t.annotations

end WrittenText

def readContents? {α : Type} (readText : Json → Option α) (v : Json) : Option (List α) :=
  (Json.readList? content? v).map (·.filterMap id)
where
  content? (v : Json) : Option (Option α) := do
    let (tag, rest) ← Json.tagged? v
    if tag = "text" then
      let members ← Json.fields? [⟨"text", false⟩] rest
      (Json.required? readText members "text").map some
    else return none

def writtenWhole? (v : Json) : Option WrittenText := do
  let members ← Json.fields? [⟨"value", true⟩, ⟨"annotations", true⟩] v
  return ⟨← Json.defaulted? "" Json.string? members "value",
    ← Json.defaulted? [] Json.items? members "annotations"⟩

def writtenPiece? (v : Json) : Option WrittenText := do
  let members ← Json.fields? [⟨"value", false⟩, ⟨"annotations", false⟩] v
  return ⟨(← Json.nullable? Json.string? members "value").getD "",
    (← Json.nullable? Json.items? members "annotations").getD []⟩

def writtenMessage? (v : Json) : Option WrittenMessage := do
  let members ← Json.fields? [⟨"role", false⟩, ⟨"content", true⟩] v
  return ⟨← Json.required? Json.string? members "role",
    ← Json.defaulted? [] (readContents? writtenWhole?) members "content"⟩

def writtenMessages? (v : Json) : Option (List WrittenMessage) := do
  let members ← Json.fields? [⟨"data", true⟩] v
  Json.defaulted? [] (Json.readList? writtenMessage?) members "data"

def writtenDelta? (v : Json) : Option (List WrittenText) := do
  let outer ← Json.fields? [⟨"delta", false⟩] v
  let delta ← Json.required? (Json.fields? [⟨"content", true⟩]) outer "delta"
  Json.defaulted? [] (readContents? writtenPiece?) delta "content"

theorem readTexts?_eq (readText : Json → Option CitedText) :
    readTexts? readText = readContents? readText := rfl

theorem mapM_of_readable {annotations : List Json} (h : ReadableAnnotations annotations) :
    annotations.mapM readAnnotation? = some (annotations.filterMap readAnnotation?) := by
  induction annotations with
  | nil => rfl
  | cons v rest ih =>
    obtain ⟨c, read⟩ := Option.isSome_iff_exists.1 (h v List.mem_cons_self)
    rw [List.mapM_cons, read, ih fun w hw => h w (List.mem_cons_of_mem v hw),
      List.filterMap_cons_some read]
    rfl

theorem readAnnotations?_of_items {v : Json} {annotations : List Json}
    (items : v.items? = some annotations) (h : ReadableAnnotations annotations) :
    readAnnotations? v = some (citationsOf annotations) := by
  rw [readAnnotations?, Json.readList?, items, Option.bind_some, mapM_of_readable h]
  rfl

/-- What the first reader finds good, the other reads too, as `f` of it. -/
def ReadsOn {α β : Type} (raw : Json → Option α) (full : Json → Option β) (f : α → β)
    (good : α → Prop) : Prop :=
  ∀ v x, raw v = some x → good x → full v = some (f x)

namespace ReadsOn

variable {α β : Type} {raw : Json → Option α} {full : Json → Option β} {f : α → β}
  {good : α → Prop} (h : ReadsOn raw full f good)

include h

theorem mapM {vs : List Json} {xs : List α} (read : vs.mapM raw = some xs)
    (all : ∀ x ∈ xs, good x) : vs.mapM full = some (xs.map f) := by
  induction vs generalizing xs with
  | nil =>
    obtain rfl := Option.some.inj read
    rfl
  | cons v rest ih =>
    rw [List.mapM_cons] at read
    obtain ⟨x, first, read⟩ := Option.bind_eq_some_iff.1 read
    obtain ⟨ys, later, same⟩ := Option.bind_eq_some_iff.1 read
    obtain rfl := Option.some.inj same
    rw [List.mapM_cons, h v x first (all x List.mem_cons_self),
      ih later fun y hy => all y (List.mem_cons_of_mem x hy)]
    rfl

theorem readList : ReadsOn (Json.readList? raw) (Json.readList? full) (List.map f)
    fun xs => ∀ x ∈ xs, good x := by
  intro v xs read all
  obtain ⟨items, is_array, read⟩ := Option.bind_eq_some_iff.1 read
  rw [Json.readList?, is_array]
  exact h.mapM read all

theorem required {members : List (String × Json)} {name : String} {x : α}
    (read : Json.required? raw members name = some x) (ok : good x) :
    Json.required? full members name = some (f x) := by
  rw [Json.required?] at read ⊢
  obtain ⟨v?, found, read⟩ := Option.bind_eq_some_iff.1 read
  obtain ⟨v, rfl, read⟩ := Option.bind_eq_some_iff.1 read
  rw [found]
  exact h v x read ok

theorem defaulted {members : List (String × Json)} {name : String} {default x : α}
    (read : Json.defaulted? default raw members name = some x) (ok : good x) :
    Json.defaulted? (f default) full members name = some (f x) := by
  rw [Json.defaulted?] at read ⊢
  obtain ⟨v?, found, read⟩ := Option.bind_eq_some_iff.1 read
  rw [found]
  cases v? with
  | none =>
    obtain rfl := Option.some.inj read
    rfl
  | some v => exact h v x read ok

theorem nullable {members : List (String × Json)} {name : String} {x? : Option α}
    (read : Json.nullable? raw members name = some x?) (ok : ∀ x, x? = some x → good x) :
    Json.nullable? full members name = some (x?.map f) := by
  rw [Json.nullable?] at read ⊢
  obtain ⟨v?, found, read⟩ := Option.bind_eq_some_iff.1 read
  rw [found]
  have reads {v : Json} (read : (raw v).map some = some x?) :
      (full v).map some = some (x?.map f) := by
    obtain ⟨x, found_x, rfl⟩ := Option.map_eq_some_iff.1 read
    rw [h v x found_x (ok x rfl)]
    rfl
  rcases v? with _ | v
  · obtain rfl := Option.some.inj read
    rfl
  · cases v with
    | null =>
      obtain rfl := Option.some.inj read
      rfl
    | _ => exact reads read

theorem contents : ReadsOn (readContents? raw) (readContents? full) (List.map f)
    fun xs => ∀ x ∈ xs, good x := by
  have each : ReadsOn (readContents?.content? raw) (readContents?.content? full) (Option.map f)
      fun x? => ∀ x, x? = some x → good x := by
    intro v x? read ok
    rw [readContents?.content?] at read ⊢
    obtain ⟨⟨tag, rest⟩, tagged, body⟩ := Option.bind_eq_some_iff.1 read
    rw [tagged, Option.bind_eq_bind, Option.bind_some]
    dsimp only at body ⊢
    by_cases is_text : tag = "text"
    · rw [if_pos is_text] at body ⊢
      obtain ⟨members, found, inner⟩ := Option.bind_eq_some_iff.1 body
      obtain ⟨x, found_x, rfl⟩ := Option.map_eq_some_iff.1 inner
      rw [found, Option.bind_eq_bind, Option.bind_some, h.required found_x (ok x rfl)]
      rfl
    · rw [if_neg is_text] at body ⊢
      obtain rfl := Option.some.inj body
      rfl
  intro v xs read all
  obtain ⟨xs?, found, rfl⟩ := Option.map_eq_some_iff.1 read
  have good_each : ∀ x? ∈ xs?, ∀ x, x? = some x → good x := fun x? member x is_some =>
    all x (List.mem_filterMap.2 ⟨x?, member, is_some⟩)
  rw [readContents?, each.readList v xs? found good_each]
  simp [List.filterMap_map, List.map_filterMap]

end ReadsOn

theorem readsOn_annotations :
    ReadsOn Json.items? readAnnotations? citationsOf ReadableAnnotations :=
  fun _ _ => readAnnotations?_of_items

theorem readsOn_whole : ReadsOn writtenWhole? readWholeText? WrittenText.cited WrittenText.Readable := by
  intro v t read readable
  obtain ⟨members, found, read⟩ := Option.bind_eq_some_iff.1 read
  obtain ⟨value, value_read, read⟩ := Option.bind_eq_some_iff.1 read
  obtain ⟨annotations, annotations_read, same⟩ := Option.bind_eq_some_iff.1 read
  obtain rfl := Option.some.inj same
  have cited := readsOn_annotations.defaulted annotations_read readable
  rw [readWholeText?, found, Option.bind_eq_bind, Option.bind_some, value_read,
    Option.bind_eq_bind, Option.bind_some]
  exact Option.bind_eq_some_iff.2 ⟨_, cited, rfl⟩

theorem readsOn_piece : ReadsOn writtenPiece? readTextPiece? WrittenText.cited WrittenText.Readable := by
  intro v t read readable
  obtain ⟨members, found, read⟩ := Option.bind_eq_some_iff.1 read
  obtain ⟨value, value_read, read⟩ := Option.bind_eq_some_iff.1 read
  obtain ⟨annotations?, annotations_read, same⟩ := Option.bind_eq_some_iff.1 read
  obtain rfl := Option.some.inj same
  have cited := readsOn_annotations.nullable annotations_read fun annotations present => by
    rw [present] at readable
    exact readable
  rw [readTextPiece?, found, Option.bind_eq_bind, Option.bind_some, value_read,
    Option.bind_eq_bind, Option.bind_some]
  refine Option.bind_eq_some_iff.2 ⟨_, cited, ?_⟩
  cases annotations? <;> rfl

def WrittenMessage.read (m : WrittenMessage) : ThreadMessage := ⟨m.role, m.texts.map WrittenText.cited⟩

def WrittenMessage.Readable (m : WrittenMessage) : Prop := ∀ t ∈ m.texts, t.Readable

theorem readsOn_message :
    ReadsOn writtenMessage? readThreadMessage? WrittenMessage.read WrittenMessage.Readable := by
  intro v m read readable
  obtain ⟨members, found, read⟩ := Option.bind_eq_some_iff.1 read
  obtain ⟨role, role_read, read⟩ := Option.bind_eq_some_iff.1 read
  obtain ⟨texts, texts_read, same⟩ := Option.bind_eq_some_iff.1 read
  obtain rfl := Option.some.inj same
  have texts_full := readsOn_whole.contents.defaulted texts_read readable
  rw [readThreadMessage?, readTexts?_eq, found, Option.bind_eq_bind, Option.bind_some, role_read,
    Option.bind_eq_bind, Option.bind_some]
  exact Option.bind_eq_some_iff.2 ⟨_, texts_full, rfl⟩

theorem readsOn_messages : ReadsOn writtenMessages? readMessageList? (List.map WrittenMessage.read)
    fun ms => ∀ m ∈ ms, m.Readable := by
  intro v ms read readable
  obtain ⟨members, found, read⟩ := Option.bind_eq_some_iff.1 read
  rw [readMessageList?, found, Option.bind_eq_bind, Option.bind_some]
  exact readsOn_message.readList.defaulted read readable

theorem readsOn_delta : ReadsOn writtenDelta? readMessageDelta? (List.map WrittenText.cited)
    fun ts => ∀ t ∈ ts, t.Readable := by
  intro v ts read readable
  obtain ⟨outer, found, read⟩ := Option.bind_eq_some_iff.1 read
  obtain ⟨delta, delta_found, read⟩ := Option.bind_eq_some_iff.1 read
  rw [readMessageDelta?, readTexts?_eq, found, Option.bind_eq_bind, Option.bind_some, delta_found,
    Option.bind_some]
  exact readsOn_piece.contents.defaulted read readable

end ChatAgents.Hosting
