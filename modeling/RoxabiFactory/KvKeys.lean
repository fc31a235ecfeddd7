import Mathlib.Data.List.Forall2
import Mathlib.Data.Set.Basic

/-!
# Keys of the key-value buckets

A key may hold letters, digits and a few signs only, so every other character
of an identifier is replaced by an underscore.  Two identifiers are confusable
when they differ at most in the characters that become underscores; this is
exactly when they have the same key.
-/

namespace RoxabiFactory

namespace Kv

/-- The characters that `_UNSAFE_RE` does not match. -/
def isSafe (character : Char) : Bool := character.isAlphanum || "-/_=.".toList.contains character

/-- What `_UNSAFE_RE.sub` makes of a character. -/
def safeChar (character : Char) : Char :=
  if isSafe character then character else '_'

/-- `kv_safe_part`. -/
def kvSafePart (value : String) : String := String.ofList (value.toList.map safeChar)

/-- The underscore, and every character that a key cannot hold. -/
def Blank (character : Char) : Prop := character = '_' ∨ isSafe character = false

/-- The texts have one length, and where they differ both characters are
blank. -/
def Confusable (first second : String) : Prop :=
  List.Forall₂ (fun one other => one = other ∨ Blank one ∧ Blank other)
    first.toList second.toList

theorem safeChar_eq_underscore_iff {character : Char} :
    safeChar character = '_' ↔ Blank character := by
  unfold safeChar Blank
  cases safe : isSafe character <;> simp

theorem safeChar_eq_iff {one other : Char} :
    safeChar one = safeChar other ↔ one = other ∨ Blank one ∧ Blank other := by
  constructor
  · intro same
    by_cases blank : Blank one
    · right
      refine ⟨blank, ?_⟩
      rw [← safeChar_eq_underscore_iff, ← same]
      exact safeChar_eq_underscore_iff.mpr blank
    · left
      have otherBlank : ¬ Blank other := by
        rw [← safeChar_eq_underscore_iff, ← same, safeChar_eq_underscore_iff]
        exact blank
      have safe : isSafe one = true := by
        by_contra rejected
        exact blank (.inr (by simpa using rejected))
      have otherSafe : isSafe other = true := by
        by_contra rejected
        exact otherBlank (.inr (by simpa using rejected))
      simpa only [safeChar, safe, otherSafe, if_true] using same
  · rintro (rfl | ⟨blank, otherBlank⟩)
    · rfl
    · rw [safeChar_eq_underscore_iff.mpr blank, safeChar_eq_underscore_iff.mpr otherBlank]

/-- The key parts are equal exactly for confusable texts. -/
theorem kvSafePart_eq_iff {first second : String} :
    kvSafePart first = kvSafePart second ↔ Confusable first second := by
  unfold kvSafePart Confusable
  rw [String.ofList_inj, ← List.forall₂_eq_eq_eq, List.forall₂_map_left_iff,
    List.forall₂_map_right_iff]
  simp only [safeChar_eq_iff]

instance : DecidableRel Confusable := fun _ _ =>
  decidable_of_iff _ kvSafePart_eq_iff

theorem Confusable.refl (text : String) : Confusable text text := kvSafePart_eq_iff.mp rfl

theorem Confusable.symm {first second : String}
    (confusable : Confusable first second) : Confusable second first :=
  kvSafePart_eq_iff.mp (kvSafePart_eq_iff.mpr confusable).symm

theorem Confusable.trans {first second third : String}
    (left : Confusable first second) (right : Confusable second third) :
    Confusable first third :=
  kvSafePart_eq_iff.mp ((kvSafePart_eq_iff.mpr left).trans (kvSafePart_eq_iff.mpr right))

theorem Confusable.eq_empty {text : String} (confusable : Confusable text "") : text = "" := by
  apply String.toList_inj.mp
  exact List.forall₂_nil_right_iff.mp confusable

theorem kvSafePart_append (first second : String) :
    kvSafePart (first ++ second) = kvSafePart first ++ kvSafePart second := by
  apply String.toList_inj.mp
  simp [kvSafePart]

end Kv

/-! ## The index of messages -/

namespace MessageIndex

open Kv

/-- The bucket `factory-msg-index`. -/
abbrev Bucket := String → Option String

/-- What happens to the bucket; the message of an `upsert` may have no id. -/
inductive Event
  | upsert (poolId : String) (platformMsgId : Option String) (sessionId : String)
  | expire (key : String)
  deriving DecidableEq

def key (poolId platformMsgId : String) : String :=
  kvSafePart poolId ++ "=" ++ kvSafePart platformMsgId

def upsert (bucket : Bucket) (poolId : String) : Option String → String → Bucket
  | none, _ => bucket
  | some platformMsgId, sessionId =>
    Function.update bucket (key poolId platformMsgId) (some sessionId)

/-- An empty value counts as none. -/
def resolve (bucket : Bucket) (poolId platformMsgId : String) : Option String :=
  match bucket (key poolId platformMsgId) with
  | some sessionId => if sessionId = "" then none else some sessionId
  | none => none

def apply (bucket : Bucket) : Event → Bucket
  | .upsert poolId platformMsgId sessionId =>
    upsert bucket poolId platformMsgId sessionId
  | .expire key => Function.update bucket key none

/-- The bucket after a sequence of events, the last one first. -/
def after : List Event → Bucket
  | [] => fun _ => none
  | event :: earlier => apply (after earlier) event

/-- The session that was last stored for exactly this message. -/
def lastUpserted (poolId platformMsgId : String) : List Event → Option String
  | [] => none
  | .upsert pool message sessionId :: earlier =>
    if pool = poolId ∧ message = some platformMsgId then some sessionId
    else lastUpserted poolId platformMsgId earlier
  | .expire _ :: earlier => lastUpserted poolId platformMsgId earlier

/-- The text of which the key is made. -/
def joined (poolId platformMsgId : String) : String := poolId ++ "=" ++ platformMsgId

theorem key_eq (poolId platformMsgId : String) :
    key poolId platformMsgId = kvSafePart (joined poolId platformMsgId) := by
  rw [joined, kvSafePart_append, kvSafePart_append]
  rfl

/-- Two messages have one key exactly when their joined texts are
confusable. -/
theorem key_eq_iff {poolId platformMsgId otherPool otherMsg : String} :
    key poolId platformMsgId = key otherPool otherMsg ↔
      Confusable (joined poolId platformMsgId) (joined otherPool otherMsg) := by
  rw [key_eq, key_eq, kvSafePart_eq_iff]

/-- The events store sessions only for the messages of the set. -/
def Within (messages : Set (String × String)) (events : List Event) : Prop :=
  ∀ poolId platformMsgId sessionId, .upsert poolId (some platformMsgId) sessionId ∈ events →
      (poolId, platformMsgId) ∈ messages

theorem lastUpserted_of_stored {messages : Set (String × String)} {poolId platformMsgId : String}
    (distinct : ∀ message ∈ messages,
      Confusable (joined message.1 message.2) (joined poolId platformMsgId) →
        message = (poolId, platformMsgId))
    {events : List Event} (within : Within messages events)
    {sessionId : String}
    (stored : after events (key poolId platformMsgId) = some sessionId) :
    lastUpserted poolId platformMsgId events = some sessionId := by
  induction events with
  | nil => cases stored
  | cons event earlier ih =>
    have rest : Within messages earlier :=
      fun pool message session member =>
        within pool message session (List.mem_cons_of_mem _ member)
    cases event with
    | expire expired =>
      simp only [after, apply] at stored
      by_cases same : key poolId platformMsgId = expired
      · simp [same] at stored
      · rw [Function.update_of_ne same] at stored
        exact ih rest stored
    | upsert pool message session =>
      cases message with
      | none =>
        simp only [lastUpserted, reduceCtorEq, and_false, if_false]
        exact ih rest stored
      | some message =>
        have known := within pool message session List.mem_cons_self
        simp only [after, apply, upsert] at stored
        by_cases same : key poolId platformMsgId = key pool message
        · obtain ⟨rfl, rfl⟩ := Prod.mk.inj (distinct _ known (key_eq_iff.mp same.symm))
          simpa [lastUpserted] using stored
        · have other : ¬ (pool = poolId ∧ some message = some platformMsgId) := by
            rintro ⟨rfl, sameMessage⟩
            obtain rfl := Option.some.inj sameMessage
            exact same rfl
          rw [Function.update_of_ne same] at stored
          simpa only [lastUpserted, if_neg other] using ih rest stored

theorem stored_of_resolve {bucket : Bucket} {poolId platformMsgId : String} {sessionId : String}
    (resolved : resolve bucket poolId platformMsgId = some sessionId) :
    bucket (key poolId platformMsgId) = some sessionId := by
  cases stored : bucket (key poolId platformMsgId) with
  | none => simp [resolve, stored] at resolved
  | some session =>
    by_cases empty : session = ""
    · simp [resolve, stored, empty] at resolved
    · simpa [resolve, stored, empty] using resolved

theorem resolve_of_confusable {poolId platformMsgId otherPool otherMsg : String}
    (confusable : Confusable (joined poolId platformMsgId) (joined otherPool otherMsg)) :
    resolve (after [.upsert otherPool (some otherMsg) "other",
      .upsert poolId (some platformMsgId) "own"]) poolId platformMsgId =
        some "other" := by
  have same := key_eq_iff.mpr confusable
  simp [resolve, after, apply, upsert, same]

end MessageIndex

end RoxabiFactory
