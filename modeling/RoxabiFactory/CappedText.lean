import Mathlib.Logic.Basic

/-!
# Text that is collected up to a limit

A buffer takes every chunk that comes before its limit and drops the later
ones, however long the chunk that crosses the limit is.  It holds the
concatenation of the chunks exactly when each chunk that is not empty comes
before the limit.
-/

namespace RoxabiFactory

namespace CappedText

/-- Append a chunk unless the limit has been reached. -/
def push (limit : Nat) (kept chunk : String) : String :=
  if limit ≤ kept.length then kept else kept ++ chunk

/-- Every chunk that is not empty comes before the limit is reached. -/
def Fits (limit : Nat) (chunks : List String) : Prop :=
  ∀ before chunk after, chunks = before ++ chunk :: after → chunk ≠ "" →
    (String.join before).length < limit

variable {limit : Nat} {chunks : List String} {kept : String}

@[simp]
theorem push_empty : push limit kept "" = kept := by
  simp [push]

theorem length_push_le (limit : Nat) (kept chunk : String) :
    (push limit kept chunk).length ≤ kept.length + chunk.length := by
  unfold push
  split
  · omega
  · simp

theorem length_foldl_push_le (limit : Nat) (chunks : List String) (kept : String) :
    (chunks.foldl (push limit) kept).length ≤
      kept.length + (String.join chunks).length := by
  induction chunks generalizing kept with
  | nil => simp
  | cons chunk chunks ih =>
    have step := length_push_le limit kept chunk
    have run := ih (push limit kept chunk)
    simp only [List.foldl_cons, String.join_cons, String.length_append]
    omega

theorem foldl_push_ne (full : limit ≤ kept.length) {chunk : String} (written : chunk ≠ "") :
    (chunk :: chunks).foldl (push limit) kept ≠ kept ++ String.join (chunk :: chunks) := by
  intro same
  have lengths := congrArg String.length same
  have bound := length_foldl_push_le limit chunks kept
  have positive : chunk.length ≠ 0 := by
    simpa [String.length_eq_zero_iff] using written
  simp only [List.foldl_cons, push, if_pos full, String.join_cons, String.length_append] at lengths
  omega

theorem foldl_push_eq_append_join_iff :
    chunks.foldl (push limit) kept = kept ++ String.join chunks ↔
      ∀ before chunk after, chunks = before ++ chunk :: after → chunk ≠ "" →
        kept.length + (String.join before).length < limit := by
  induction chunks generalizing kept with
  | nil => simp
  | cons chunk chunks ih =>
    have unfolded : (∀ before later after,
        chunk :: chunks = before ++ later :: after → later ≠ "" →
          kept.length + (String.join before).length < limit) ↔
        (chunk ≠ "" → kept.length < limit) ∧
          ∀ before later after, chunks = before ++ later :: after →
            later ≠ "" → (kept ++ chunk).length + (String.join before).length < limit := by
      constructor
      · intro fits
        refine ⟨fun written => by simpa using fits [] chunk chunks rfl written,
          ?_⟩
        rintro before later after rfl written
        simpa [Nat.add_assoc] using
          fits (chunk :: before) later after rfl written
      · rintro ⟨first, others⟩ before later after same written
        cases before with
        | nil =>
          obtain ⟨rfl, rfl⟩ := List.cons.inj same
          simpa using first written
        | cons head before =>
          obtain ⟨rfl, rfl⟩ := List.cons.inj same
          simpa [Nat.add_assoc] using others before later after rfl written
    rw [unfolded, ← ih]
    by_cases written : chunk = ""
    · simp [written]
    by_cases full : limit ≤ kept.length
    · refine iff_of_false (foldl_push_ne full written) ?_
      rintro ⟨first, -⟩
      exact absurd (first written) (Nat.not_lt.mpr full)
    · simp [push, full, Nat.lt_of_not_le full, String.append_assoc]

/-- The buffer holds everything exactly when everything fits. -/
theorem foldl_push_eq_join_iff :
    chunks.foldl (push limit) "" = String.join chunks ↔ Fits limit chunks := by
  simpa [Fits] using @foldl_push_eq_append_join_iff limit chunks ""

theorem length_le_foldl_push :
    kept.length ≤ (chunks.foldl (push limit) kept).length := by
  induction chunks generalizing kept with
  | nil => exact Nat.le_refl _
  | cons chunk chunks ih =>
    refine Nat.le_trans ?_ (@ih (push limit kept chunk))
    unfold push
    split <;> simp

theorem foldl_push_ne_empty (positive : 0 < limit) (written : String.join chunks ≠ "") :
    chunks.foldl (push limit) "" ≠ "" := by
  induction chunks with
  | nil => simp at written
  | cons chunk chunks ih =>
    by_cases empty : chunk = ""
    · subst empty
      simpa using ih (by simpa using written)
    · have first : push limit "" chunk = chunk := by
        simp [push, Nat.not_le.mpr positive]
      have monotone : chunk.length ≤
          (chunks.foldl (push limit) chunk).length := length_le_foldl_push
      rw [List.foldl_cons, first]
      rintro nothing
      simp [nothing, String.length_eq_zero_iff, empty] at monotone

end CappedText

end RoxabiFactory
