import OpenPinch.Common.Reference
import OpenPinch.Engine.Text

/-!
# Messages of the Telegram connector

What the connector decodes from an update, the envelope it delivers to the
engine, and how the engine classifies that.  The envelope has no metadata, so
`inferSessionType` compares the channel with the sender: the number of the chat
with the name of the user.
-/

namespace OpenPinch

/-! ## Updates -/

structure TelegramUser where
  username : String
deriving DecidableEq, Repr

structure TelegramChat where
  id : Int64
deriving DecidableEq, Repr

/-- `telegramMessage`.  The field `from` is `user` here. -/
structure TelegramMessage where
  text : String
  chat : TelegramChat
  user : TelegramUser
deriving DecidableEq, Repr

structure TelegramUpdate where
  updateId : Int64
  message : Option TelegramMessage
deriving DecidableEq, Repr

/-- The message of an update that `Start` does not skip. -/
def TelegramUpdate.textMessage? (update : TelegramUpdate) : Option TelegramMessage :=
  update.message.filter fun message => message.text != ""

/-- Telegram numbers private chats from one on, and groups with negative numbers. -/
def TelegramChat.isPrivate (chat : TelegramChat) : Bool := decide (0 < chat.id)

namespace TelegramConnector

/-- `strconv.FormatInt` in base ten. -/
def formatInt (n : Int64) : String := toString n.toInt

/-- The message that `Start` hands to `DeliverMessage`, as the engine receives it. -/
def envelope (message : TelegramMessage) : MessageEnvelope where
  connector := "telegram"
  channelId := formatInt message.chat.id
  sender := message.user.username
  body := message.text
  metadataJson := "\x7b\x7d"

section

variable [Externals]

/-- An empty object of metadata says nothing about the channel. -/
theorem inferSessionType_envelope (hparse : Externals.jsonParse "\x7b\x7d" = some (.obj []))
    (message : TelegramMessage) :
    inferSessionType (envelope message) =
      if formatInt message.chat.id = message.user.username then "direct" else "group" := by
  have hsilent : ((Externals.jsonParse "\x7b\x7d").bind fun metadata =>
      ((metadata.get? "channel_type").bind Json.asStr?) <|>
        ((metadata.get? "chat_type").bind Json.asStr?)) = none := by
    rw [hparse]
    rfl
  simp only [inferSessionType, envelope, hsilent]
  exact if_neg (by decide : ("telegram" : String) ≠ "desktop")

/-- The engine classifies a message as what it is exactly when a private chat has
its own number as the name of the user, or a group has not. -/
theorem classified_iff (hparse : Externals.jsonParse "\x7b\x7d" = some (.obj []))
    (message : TelegramMessage) :
    (inferSessionType (envelope message) = "direct" ↔ message.chat.isPrivate = true) ↔
      (formatInt message.chat.id = message.user.username ↔ message.chat.isPrivate = true) := by
  rw [inferSessionType_envelope hparse]
  split
  · rename_i hnamed
    simp [hnamed]
  · rename_i hother
    simp [hother]

end

/-- A message in a group is classified as one. -/
theorem classified_iff_group :
    @inferSessionType referenceExternals (envelope ⟨"hi", ⟨-7⟩, ⟨"alice"⟩⟩) = "direct" ↔
      (⟨-7⟩ : TelegramChat).isPrivate = true :=
  (@classified_iff referenceExternals rfl ⟨"hi", ⟨-7⟩, ⟨"alice"⟩⟩).mpr (by decide)

/-- A message in a private chat is classified as one in a group. -/
theorem classified_iff_fails :
    ¬ ∀ [Externals], Externals.jsonParse "\x7b\x7d" = some (.obj []) →
      ∀ (update : TelegramUpdate) (message : TelegramMessage),
        update.textMessage? = some message →
          (inferSessionType (envelope message) = "direct" ↔ message.chat.isPrivate = true) := by
  intro h
  have hdirect := (@h referenceExternals rfl ⟨1, some ⟨"hi", ⟨7⟩, ⟨"alice"⟩⟩⟩ _ rfl).mpr
    (by decide)
  exact absurd hdirect (by decide)

end TelegramConnector

end OpenPinch
