import ChatAgents.Hosting.Thread
import ChatAgents.Model.ChatCompletions
set_option autoImplicit false

namespace ChatAgents

theorem ContentPart.isImage_eq_false_iff {p : ContentPart} :
    p.isImage = false ↔ ∃ s, p = .text s := by
  cases p <;> simp [isImage, text?]

namespace ChatCompletions

/-- The parts that a message comes to: each image by its address, each text unless it is empty, in
their order. -/
inductive SaidInParts : List ContentPart → List UserPart → Prop
  | nothing : SaidInParts [] []
  | silence {ps : List ContentPart} {us : List UserPart} (rest : SaidInParts ps us) :
      SaidInParts (.text "" :: ps) us
  | text {s : String} {ps : List ContentPart} {us : List UserPart} (spoken : s ≠ "")
      (rest : SaidInParts ps us) : SaidInParts (.text s :: ps) (.text s :: us)
  | image {mediaType : String} {data : List UInt8} {ps : List ContentPart} {us : List UserPart}
      (rest : SaidInParts ps us) :
      SaidInParts (.image mediaType data :: ps)
        (.imageUrl ("data:" ++ mediaType ++ ";base64," ++ Text.Base64.encode data) :: us)
  | imageUrl {url : String} {ps : List ContentPart} {us : List UserPart}
      (rest : SaidInParts ps us) : SaidInParts (.imageUrl url :: ps) (.imageUrl url :: us)

/-- What a message says, if it says or shows anything: its texts as one, or its parts if there is an
image among them. -/
inductive UserContent.Says (parts : List ContentPart) : UserContent → Prop
  | words {texts : List String} (said : SaidInParts parts (texts.map .text))
      (spoken : texts ≠ []) : Says parts (.text (String.join texts))
  | shown {us : List UserPart} {url : String} (said : SaidInParts parts us)
      (image : .imageUrl url ∈ us) : Says parts (.parts us)

def UserPart.text? : UserPart → Option String
  | .text s => some s
  | .imageUrl _ => none

theorem saidInParts_filterMap (parts : List ContentPart) :
    SaidInParts parts (parts.filterMap UserPart.ofPart?) := by
  induction parts with
  | nil => exact .nothing
  | cons p rest ih =>
    cases p with
    | text s =>
      by_cases silent : s = ""
      · subst silent
        simpa [UserPart.ofPart?] using ih.silence
      · simpa [UserPart.ofPart?, silent] using ih.text silent
    | image mediaType data => exact ih.image
    | imageUrl url => exact ih.imageUrl

theorem partToJson?_eq (p : ContentPart) :
    Hosting.partToJson? p = (UserPart.ofPart? p).map UserPart.toJson := by
  cases p with
  | text s =>
    by_cases silent : s = "" <;>
      simp [Hosting.partToJson?, UserPart.ofPart?, UserPart.toJson, silent]
  | image mediaType data => rfl
  | imageUrl url => rfl

namespace SaidInParts

variable {parts : List ContentPart} {us : List UserPart} (h : SaidInParts parts us)
include h

theorem eq_filterMap : us = parts.filterMap UserPart.ofPart? := by
  induction h with
  | nothing => rfl
  | silence _ ih => simpa [UserPart.ofPart?] using ih
  | text spoken _ ih => simpa [UserPart.ofPart?, spoken] using ih
  | image _ ih => simpa [UserPart.ofPart?, ContentPart.imageUrl?] using ih
  | imageUrl _ ih => simpa [UserPart.ofPart?, ContentPart.imageUrl?] using ih

theorem ne_empty {s : String} (said : .text s ∈ us) : s ≠ "" := by
  induction h with
  | nothing => cases said
  | silence _ ih => exact ih said
  | text spoken _ ih =>
    cases said with
    | head => exact spoken
    | tail _ later => exact ih later
  | image _ ih | imageUrl _ ih =>
    cases said with
    | tail _ later => exact ih later

theorem joinText_eq : joinText parts = String.join (us.filterMap UserPart.text?) := by
  induction h with
  | nothing => rfl
  | silence _ ih => simpa [joinText, ContentPart.text?, String.join_cons] using ih
  | text _ _ ih =>
    simpa [joinText, ContentPart.text?, UserPart.text?, String.join_cons] using ih
  | image _ ih | imageUrl _ ih => exact ih

theorem shows_iff : (∃ url, .imageUrl url ∈ us) ↔ ∃ p ∈ parts, p.isImage = true := by
  induction h with
  | nothing => simp
  | silence _ ih | text _ _ ih => simpa [ContentPart.isImage, ContentPart.text?] using ih
  | image _ _ | imageUrl _ _ => simp [ContentPart.isImage, ContentPart.text?]

end SaidInParts

theorem eq_map_text {us : List UserPart} (plain : ¬ ∃ url, .imageUrl url ∈ us) :
    us = (us.filterMap UserPart.text?).map .text := by
  induction us with
  | nil => rfl
  | cons u rest ih =>
    have later : ¬ ∃ url, .imageUrl url ∈ rest := by
      rintro ⟨url, shown⟩
      exact plain ⟨url, List.mem_cons_of_mem u shown⟩
    cases u with
    | text s => simpa [UserPart.text?] using ih later
    | imageUrl url => exact absurd ⟨url, List.mem_cons_self⟩ plain

theorem join_eq_empty_iff (texts : List String) :
    String.join texts = "" ↔ ∀ t ∈ texts, t = "" := by
  induction texts with
  | nil => simp
  | cons t rest ih => simp [String.join_cons, String.append_eq_empty_iff, ih]

theorem UserContent.Says.ne_empty {parts : List ContentPart} {c : UserContent}
    (h : UserContent.Says parts c) : c ≠ .text "" ∧ c ≠ .parts [] := by
  cases h with
  | @words texts said spoken =>
    refine ⟨?_, nofun⟩
    intro silent
    have all_empty := (join_eq_empty_iff texts).1 (UserContent.text.inj silent)
    obtain ⟨t, member⟩ := List.exists_mem_of_ne_nil texts spoken
    exact said.ne_empty (List.mem_map_of_mem member) (all_empty t member)
  | shown said image =>
    refine ⟨nofun, ?_⟩
    intro nothing
    obtain rfl := UserContent.parts.inj nothing
    cases image

section

variable (parts : List ContentPart)

theorem ofParts?_eq :
    UserContent.ofParts? parts =
      if ∃ p ∈ parts, p.isImage = true then some (.parts (parts.filterMap UserPart.ofPart?))
      else if joinText parts = "" then none else some (.text (joinText parts)) := by
  have images : (parts.all fun p => !p.isImage) = true ↔ ¬ ∃ p ∈ parts, p.isImage = true := by
    simp
  rw [UserContent.ofParts?]
  by_cases shown : ∃ p ∈ parts, p.isImage = true
  · rw [if_neg fun plain => images.1 plain shown, if_pos shown]
  · rw [if_pos (images.2 shown), if_neg shown]

theorem contentToJson?_eq :
    Hosting.contentToJson? ⟨.user, parts⟩ =
      (UserContent.ofParts? parts).map UserContent.toJson := by
  have images : (ChatMessage.mk .user parts).hasImages = true ↔ ∃ p ∈ parts, p.isImage = true := by
    simp [ChatMessage.hasImages]
  have inParts : parts.filterMap Hosting.partToJson? =
      (parts.filterMap UserPart.ofPart?).map UserPart.toJson := by
    rw [List.map_filterMap]
    exact congrArg (parts.filterMap ·) (funext partToJson?_eq)
  rw [Hosting.contentToJson?, ofParts?_eq]
  by_cases shown : ∃ p ∈ parts, p.isImage = true
  · rw [if_pos (images.2 shown), if_pos shown, inParts]
    rfl
  · rw [if_neg ((not_congr images).2 shown), if_neg shown, ChatMessage.text]
    split <;> rfl

theorem ofParts?_eq_none_iff :
    UserContent.ofParts? parts = none ↔
      (∀ p ∈ parts, p.isImage = false) ∧ joinText parts = "" := by
  rw [ofParts?_eq]
  by_cases shown : ∃ p ∈ parts, p.isImage = true
  · have not_plain : ¬ ∀ p ∈ parts, p.isImage = false := by simpa using shown
    simp [shown, not_plain]
  · have plain : ∀ p ∈ parts, p.isImage = false := by simpa using shown
    simp [shown, and_iff_right plain]

theorem ofParts?_eq_some_iff (c : UserContent) :
    UserContent.ofParts? parts = some c ↔ UserContent.Says parts c := by
  have said := saidInParts_filterMap parts
  rw [ofParts?_eq]
  constructor
  · intro h
    by_cases shown : ∃ p ∈ parts, p.isImage = true
    · rw [if_pos shown] at h
      obtain rfl := Option.some.inj h
      obtain ⟨url, image⟩ := said.shows_iff.2 shown
      exact .shown said image
    · rw [if_neg shown] at h
      have plain := eq_map_text ((not_congr said.shows_iff).2 shown)
      by_cases silent : joinText parts = ""
      · rw [if_pos silent] at h
        cases h
      · rw [if_neg silent] at h
        obtain rfl := Option.some.inj h
        rw [said.joinText_eq] at silent ⊢
        refine .words (plain ▸ said) ?_
        intro nothing
        exact silent (by rw [nothing]; rfl)
  · intro h
    cases h with
    | shown said image =>
      rw [if_pos (said.shows_iff.1 ⟨_, image⟩), ← said.eq_filterMap]
    | @words texts said spoken =>
      have plain : ¬ ∃ url, UserPart.imageUrl url ∈ texts.map .text := by simp
      have texts_said : (texts.map UserPart.text).filterMap UserPart.text? = texts := by
        rw [List.filterMap_map]
        exact List.filterMap_some
      have whole : joinText parts = String.join texts := by
        rw [said.joinText_eq, texts_said]
      have loud : String.join texts ≠ "" := by
        intro silent
        exact (UserContent.Says.words said spoken).ne_empty.1 (congrArg UserContent.text silent)
      rw [if_neg ((not_congr said.shows_iff).1 plain), whole, if_neg loud]

end

end ChatCompletions

open ChatCompletions (UserContent WireMessage)

/-- Both services are told the same of what a user says, or neither is told anything; that is so if
there is no image in the message and its text is empty. What they are told is one text or a list of
parts that says and shows everything in the message, in its order, and nothing else. -/
theorem user_contents_agree (parts : List ContentPart) :
    let m : ChatMessage := ⟨.user, parts⟩
    let silent := (∀ p ∈ parts, ∃ s, p = .text s) ∧ m.text = ""
    Hosting.contentToJson? m = (UserContent.ofParts? parts).map UserContent.toJson ∧
      Hosting.messageToJson? m =
        (WireMessage.ofMessage? (.ofChat m)).map WireMessage.toJson ∧
      (WireMessage.ofMessage? (.ofChat m) = none ↔ silent) ∧
      (Hosting.messageToJson? m = none ↔ silent) ∧
      ∀ c, (UserContent.ofParts? parts = some c ↔ UserContent.Says parts c) ∧
        (UserContent.Says parts c → c ≠ .text "" ∧ c ≠ .parts []) := by
  intro m silent
  have same := ChatCompletions.contentToJson?_eq parts
  have nothing : UserContent.ofParts? parts = none ↔ silent := by
    rw [ChatCompletions.ofParts?_eq_none_iff]
    exact and_congr_left' (forall₂_congr fun _ _ => ContentPart.isImage_eq_false_iff)
  have told : WireMessage.ofMessage? (.ofChat m) = (UserContent.ofParts? parts).map .user := rfl
  have hosted : Hosting.messageToJson? m =
      (WireMessage.ofMessage? (.ofChat m)).map WireMessage.toJson := by
    rw [told, Hosting.messageToJson?, same, Option.map_map, Option.map_map]
    rfl
  refine ⟨same, hosted, ?_, ?_, fun c =>
    ⟨ChatCompletions.ofParts?_eq_some_iff parts c, UserContent.Says.ne_empty⟩⟩
  · rw [told, Option.map_eq_none_iff, nothing]
  · rw [hosted, told, Option.map_eq_none_iff, Option.map_eq_none_iff, nothing]

end ChatAgents
