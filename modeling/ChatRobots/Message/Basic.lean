/-
Module: ChatRobots.Message.Basic
Purpose: Messages to the chat, and their data form.
Main exports: BotIdentity, Attachment, Message, Message.toJson
-/
import ChatRobots.Json.Basic
import ChatRobots.Text.Split

namespace ChatRobots

/-!
A message is posted to a channel under the name and the icon of a robot.  An icon is the address
of an image when it begins like a web address, and the name of an emoji otherwise.

The data form has its members in a fixed order and leaves out what is not set: the icon it does
not have, an empty list of attachments, the link or the text of an attachment.  The team domain
is not part of it: it tells the sender where to post, and the receiver knows it already.
-/

/-- The picture beside a robot's name. -/
inductive BotIcon where
  | emoji (name : String)
  | url (address : String)
deriving DecidableEq, Repr

namespace BotIcon

/-- Tell an address from an emoji. -/
def ofText (text : String) : BotIcon :=
  if (Text.afterLead? "http://".toList text.toList).isSome
      || (Text.afterLead? "https://".toList text.toList).isSome then
    .url text
  else .emoji text

end BotIcon

/-- The name and the icon that a robot posts under. -/
structure BotIdentity where
  name : String
  icon : BotIcon
deriving DecidableEq, Repr

namespace BotIdentity

def ofTexts (name icon : String) : BotIdentity :=
  ⟨name, BotIcon.ofText icon⟩

end BotIdentity

/-- A framed text below a message. -/
structure Attachment where
  color : String
  title : String
  titleLink : Option String
  fallback : String
  text : Option String
deriving DecidableEq, Repr

namespace Attachment

def defaultColor : String := "#7CD197"

/-- An attachment with the default colour, without a link and a text. -/
def new (fallback title : String) : Attachment :=
  ⟨defaultColor, title, none, fallback, none⟩

def withTitleLink (url : String) (attachment : Attachment) : Attachment :=
  { attachment with titleLink := some url }

/-- Set the text; an empty one leaves it out. -/
def withText (text : String) (attachment : Attachment) : Attachment :=
  { attachment with text := if text = "" then none else some text }

def withColor (color : String) (attachment : Attachment) : Attachment :=
  { attachment with color := color }

/-- A member that is there when it has a value. -/
def optionalMember (name : String) : Option String → List (String × Json)
  | none => []
  | some value => [(name, .string value)]

def toJson (attachment : Attachment) : Json :=
  .object (
    [("color", .string attachment.color), ("title", .string attachment.title)]
    ++ optionalMember "title_link" attachment.titleLink
    ++ [("fallback", .string attachment.fallback)]
    ++ optionalMember "text" attachment.text)

end Attachment

/-- A message to a channel. -/
structure Message where
  teamDomain : String
  channel : String
  identity : BotIdentity
  text : String
  attachments : List Attachment
deriving DecidableEq, Repr

namespace Message

/-- The member for the icon. -/
def iconMember : BotIcon → String × Json
  | .emoji name => ("icon_emoji", .string name)
  | .url address => ("icon_url", .string address)

def toJson (message : Message) : Json :=
  .object (
    [("channel", .string message.channel), ("username", .string message.identity.name),
      iconMember message.identity.icon, ("text", .string message.text)]
    ++ (if message.attachments.isEmpty then []
        else [("attachments", .array (message.attachments.map Attachment.toJson))])
    ++ [("parse", .string "full"), ("unfurl_links", .bool true)])

/-- The text that is posted. -/
def body (message : Message) : String :=
  message.toJson.render

end Message

end ChatRobots
