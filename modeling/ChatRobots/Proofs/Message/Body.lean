/-
Module: ChatRobots.Proofs.Message.Body
Purpose: What a receiver reads in the body of a posted message.
Main exports: Attachment.Draft, Attachment.Draft.build_eq, Message.toJson_inj,
  Message.body_reads_back
-/
import ChatRobots.Message.Basic
import ChatRobots.Proofs.Json.RoundTrip
import ChatRobots.Proofs.Text.Beginnings

namespace ChatRobots

/-!
The body of a message is read back by the grammar of JSON.  What is read has the members of the
message in a fixed order; a member that is left out is told from every member that is there by its
name, so nothing but the team domain gets lost.
-/

/-- An icon is an address if it begins like one. -/
theorem BotIcon.ofText_eq (text : String) : ofText text =
    if Begins "http://" text ∨ Begins "https://" text then .url text else .emoji text := by
  refine if_congr ?_ rfl rfl
  rw [Bool.or_eq_true, Text.isSome_afterLead?_iff, Text.isSome_afterLead?_iff]
  rfl

namespace Attachment

/-- One step in building an attachment. -/
inductive Touch where
  | titleLink (url : String)
  | text (text : String)
  | color (color : String)

def Touch.apply (attachment : Attachment) : Touch → Attachment
  | .titleLink url => attachment.withTitleLink url
  | .text words => attachment.withText words
  | .color code => attachment.withColor code

/-- How an attachment is built: from a fallback and a title, and then step by step. -/
structure Draft where
  fallback : String
  title : String
  touches : List Touch

namespace Draft

variable (draft : Draft)

def build : Attachment :=
  draft.touches.foldl Touch.apply (Attachment.new draft.fallback draft.title)

/-- The link that was set last. -/
def link? : Option String :=
  (draft.touches.filterMap fun
    | .titleLink url => some url
    | _ => none).getLast?

/-- The text that was set last. -/
def text? : Option String :=
  (draft.touches.filterMap fun
    | .text text => some text
    | _ => none).getLast?

/-- The color that was set last. -/
def color? : Option String :=
  (draft.touches.filterMap fun
    | .color color => some color
    | _ => none).getLast?

/-- What is set last counts, and an empty text counts as none. -/
theorem build_eq : draft.build =
    ⟨draft.color?.getD defaultColor, draft.title, draft.link?, draft.fallback,
      draft.text?.filter (· ≠ "")⟩ := by
  obtain ⟨fallback, title, touches⟩ := draft
  induction touches using List.reverseRecOn with
  | nil => rfl
  | append_singleton touches touch ih =>
      rw [build] at ih ⊢
      rw [List.foldl_append, ih]
      cases touch with
      | titleLink url => simp [Touch.apply, withTitleLink, link?, text?, color?]
      | text text =>
          by_cases empty : text = "" <;>
            simp [Touch.apply, withText, link?, text?, color?, empty, Option.filter_some]
      | color color => simp [Touch.apply, withColor, link?, text?, color?]

/-- The attachment as a receiver sees it. -/
def shown : Json :=
  .object (
    [("color", .string (draft.color?.getD defaultColor)), ("title", .string draft.title)]
    ++ (draft.link?.map fun url => ("title_link", Json.string url)).toList
    ++ [("fallback", .string draft.fallback)]
    ++ ((draft.text?.filter (· ≠ "")).map fun text => ("text", Json.string text)).toList)

theorem toJson_build : draft.build.toJson = draft.shown := by
  have optional (name : String) (value : Option String) : optionalMember name value =
      (value.map fun text => (name, Json.string text)).toList := by
    cases value <;> rfl
  rw [build_eq, toJson, shown, optional, optional]

end Draft

theorem plain_toJson (attachment : Attachment) : attachment.toJson.Plain := by
  have optional {name : String} {value : Option String} {member : String × Json}
      (given : member ∈ optionalMember name value) : member.2.Plain := by
    cases value with
    | none => cases given
    | some text =>
        rw [List.mem_singleton.1 given]
        exact .string text
  refine .object fun member given => ?_
  simp only [List.mem_append, List.mem_cons, List.not_mem_nil, or_false] at given
  rcases given with (((rfl | rfl) | link) | rfl) | text
  · exact .string _
  · exact .string _
  · exact optional link
  · exact .string _
  · exact optional text

/-- Attachments that are written alike are the same: each member is known by its name. -/
theorem toJson_inj {first second : Attachment} (same : first.toJson = second.toJson) :
    first = second := by
  obtain ⟨color, title, link, fallback, text⟩ := first
  obtain ⟨color', title', link', fallback', text'⟩ := second
  rw [toJson, toJson, Json.object.injEq] at same
  cases link <;> cases link' <;> cases text <;> cases text' <;>
    simp_all [optionalMember]

end Attachment

namespace Message

theorem plain_toJson (message : Message) : message.toJson.Plain := by
  have icon : (iconMember message.identity.icon).2.Plain := by
    cases message.identity.icon <;> exact .string _
  have attached : (Json.array (message.attachments.map Attachment.toJson)).Plain := by
    refine .array fun item given => ?_
    obtain ⟨attachment, -, rfl⟩ := List.mem_map.1 given
    exact attachment.plain_toJson
  refine .object fun member given => ?_
  simp only [List.mem_append, List.mem_cons, List.not_mem_nil, or_false] at given
  rcases given with ((rfl | rfl | rfl | rfl) | optional) | rfl | rfl
  · exact .string _
  · exact .string _
  · exact icon
  · exact .string _
  · split at optional
    · cases optional
    · rw [List.mem_singleton.1 optional]
      exact attached
  · exact .string _
  · exact .bool true

theorem iconMember_inj {first second : BotIcon} (same : iconMember first = iconMember second) :
    first = second := by
  cases first <;> cases second <;> simp_all [iconMember]

/-- The member for the attachments, which is there if they are. -/
def attachmentMember (attachments : List Attachment) : List (String × Json) :=
  if attachments.isEmpty then []
  else [("attachments", .array (attachments.map Attachment.toJson))]

theorem attachmentMember_inj {first second : List Attachment}
    (same : attachmentMember first = attachmentMember second) : first = second := by
  have injective : Function.Injective Attachment.toJson := fun _ _ => Attachment.toJson_inj
  cases first with
  | nil => cases second <;> simp_all [attachmentMember]
  | cons attachment rest =>
      cases second with
      | nil => simp [attachmentMember] at same
      | cons attachment' rest' =>
          apply List.map_injective_iff.2 injective
          simpa [attachmentMember] using same

/-- Messages are written alike if they agree in everything but the team domain, and only then. -/
theorem toJson_eq_iff {first second : Message} : first.toJson = second.toJson ↔
    first.channel = second.channel ∧ first.identity = second.identity ∧
      first.text = second.text ∧ first.attachments = second.attachments := by
  obtain ⟨-, channel, ⟨name, icon⟩, text, attachments⟩ := first
  obtain ⟨-, channel', ⟨name', icon'⟩, text', attachments'⟩ := second
  constructor
  · intro same
    have members := Json.object.inj same
    obtain ⟨front, -⟩ := List.append_inj' members rfl
    obtain ⟨lead, attached⟩ := List.append_inj front rfl
    simp only [List.cons.injEq, Prod.mk.injEq, Json.string.injEq, true_and, and_true] at lead
    obtain ⟨rfl, rfl, shown, rfl⟩ := lead
    obtain rfl := iconMember_inj shown
    exact ⟨rfl, rfl, rfl, attachmentMember_inj attached⟩
  · rintro ⟨rfl, same, rfl, rfl⟩
    dsimp only at same
    rw [toJson, toJson, same]

/-- The body of a message is read as an object with just these members in this order: the icon is
an address or an emoji, and the attachments are there if there are any, each with the link and the
text that it was given.  Two messages have one body exactly if they agree in everything but the
team domain. -/
theorem body_reads_back :
    (∀ (teamDomain channel name icon text : String) (drafts : List Attachment.Draft),
      Json.read? (body ⟨teamDomain, channel, BotIdentity.ofTexts name icon, text,
          drafts.map Attachment.Draft.build⟩) =
        some (.object (
          [("channel", .string channel), ("username", .string name),
            (if Begins "http://" icon ∨ Begins "https://" icon then "icon_url" else "icon_emoji",
              .string icon),
            ("text", .string text)]
          ++ (if drafts.isEmpty then []
              else [("attachments", .array (drafts.map Attachment.Draft.shown))])
          ++ [("parse", .string "full"), ("unfurl_links", .bool true)]))) ∧
    ∀ first second : Message, first.body = second.body ↔
      first.channel = second.channel ∧ first.identity = second.identity ∧
        first.text = second.text ∧ first.attachments = second.attachments := by
  constructor
  · intro teamDomain channel name icon text drafts
    have shownIcon : iconMember (BotIdentity.ofTexts name icon).icon =
        (if Begins "http://" icon ∨ Begins "https://" icon then "icon_url" else "icon_emoji",
          .string icon) := by
      rw [BotIdentity.ofTexts, BotIcon.ofText_eq]
      by_cases address : Begins "http://" icon ∨ Begins "https://" icon <;>
        simp [address, iconMember]
    have built : Attachment.toJson ∘ Attachment.Draft.build = Attachment.Draft.shown :=
      funext Attachment.Draft.toJson_build
    rw [body, (plain_toJson _).read?_render, toJson, shownIcon, List.isEmpty_map, List.map_map,
      built]
    rfl
  · intro first second
    rw [← toJson_eq_iff]
    constructor
    · intro same
      have read : Json.read? first.body = some first.toJson := (plain_toJson first).read?_render
      have read' : Json.read? second.body = some second.toJson :=
        (plain_toJson second).read?_render
      rw [same] at read
      exact Option.some.inj (read.symm.trans read')
    · exact congrArg Json.render

end Message

end ChatRobots
