import YoAuthorize.Lib.Octets
import YoAuthorize.Lib.Transfer

/-!
# Reading a file

A file that a program opens, looks at and reads to the size that it has seen.  The
parts that `read` delivers and the errors on the way come from outside, and a
program may try some errors again.  A file that has been read is the beginning of
its content, whatever the parts were (`readAll_eq_some`).
-/

namespace FileRead

open Octets

structure Stat : Type where
  isRegular : Bool
  /-- The permission bits. -/
  mode : UInt32
  size : Int

/-- What `open`, `fstat` and each `read` return, where `read` delivers the content
from its front. -/
structure File : Type where
  opened : Except Int Unit := .ok ()
  stat : Option Stat
  content : Bytes
  reads : List (Except Int Nat)

def event (retried : Int → Bool) : Except Int Nat → Transfer.Event Int
  | .ok count => .moves count
  | .error error => if retried error then .again else .fails error

/-- The loop over `read`.  When nothing more is delivered, it fails. -/
def progress (retried : Int → Bool) (file : File) (size : Nat) : Transfer.Progress UInt8 Int :=
  Transfer.run 0 size [] file.content (file.reads.map (event retried))

def readAll (retried : Int → Bool) (file : File) (size : Nat) : Option (FixedBytes size) :=
  match (progress retried file size).outcome with
  | .complete =>
      if long : (progress retried file size).target.length = size then
        some ⟨(progress retried file size).target, long⟩
      else none
  | _ => none

section

variable {retried : Int → Bool} {file : File} {size : Nat}

theorem readAll_eq_some {bytes : FixedBytes size} (reads : readAll retried file size = some bytes) :
    bytes.val = file.content.take size := by
  unfold readAll at reads
  split at reads
  · split at reads
    · rename_i long
      cases reads
      have whole : (progress retried file size).target ++ (progress retried file size).source =
          file.content := Transfer.run_conserves
      dsimp only
      rw [← whole, List.take_left' long]
    · cases reads
  · cases reads

theorem readAll_of_complete (complete : (progress retried file size).outcome = .complete) :
    ∃ bytes, readAll retried file size = some bytes := by
  have long : (progress retried file size).target.length = size :=
    Transfer.run_complete (Nat.zero_le size) complete
  unfold readAll
  rw [complete]
  dsimp only
  rw [dif_pos long]
  exact ⟨_, rfl⟩

/-- Enough parts that deliver something read the file. -/
theorem readAll_of_enough (long : size ≤ file.content.length)
    (delivers : ∀ count, .ok count ∈ file.reads → 0 < count)
    (retries : ∀ error, .error error ∈ file.reads → retried error = true)
    (enough : size ≤ file.reads.countP Except.isOk) :
    ∃ bytes, readAll retried file size = some bytes ∧ bytes.val = file.content.take size := by
  have proceeds : ∀ step ∈ file.reads.map (event retried), step.Proceeds := by
    intro step mem
    obtain ⟨answer, answers, rfl⟩ := List.mem_map.mp mem
    cases answer with
    | ok count => exact delivers count answers
    | error error =>
        rw [event, retries error answers]
        trivial
  have moving : Transfer.moving (file.reads.map (event retried)) =
      file.reads.countP Except.isOk := by
    rw [Transfer.moving, List.countP_map]
    refine List.countP_congr fun answer mem => ?_
    cases answer with
    | ok count => exact Iff.rfl
    | error error =>
        rw [Function.comp_apply, event, retries error mem]
        exact Iff.rfl
  have complete : (progress retried file size).outcome = .complete := by
    refine (Transfer.complete_of_enough (Nat.zero_le size) ?_ proceeds ?_).1
    · simpa using long
    · simpa [moving] using enough
  obtain ⟨bytes, reads⟩ := readAll_of_complete complete
  exact ⟨bytes, reads, readAll_eq_some reads⟩

/-- A program that tries more errors again reads what another one has read. -/
theorem progress_mono {other : Int → Bool} {reads : List (Except Int Nat)} {target source : Bytes}
    (more : ∀ error, retried error = true → other error = true)
    (complete : (Transfer.run 0 size target source (reads.map (event retried))).outcome =
      .complete) :
    (Transfer.run 0 size target source (reads.map (event other))).outcome = .complete := by
  induction reads generalizing target source with
  | nil => exact complete
  | cons answer reads ih =>
      simp only [List.map_cons] at complete ⊢
      unfold Transfer.run at complete ⊢
      split at complete
      swap
      · rename_i reached
        simp only [if_neg reached]
      rename_i under
      simp only [if_pos under]
      cases answer with
      | ok count =>
          simp only [event] at complete ⊢
          split at complete
          · cases complete
          · rename_i part
            simp only [if_neg part]
            exact ih complete
      | error error =>
          cases same : retried error with
          | true =>
              have again : event retried (.error error) = .again := if_pos same
              have also : event other (.error error) = .again := if_pos (more error same)
              rw [again] at complete
              rw [also]
              exact ih complete
          | false =>
              have fails : event retried (.error error) = .fails error :=
                if_neg (by rw [same]; decide)
              rw [fails] at complete
              cases complete

theorem readAll_mono {other : Int → Bool} {bytes : FixedBytes size}
    (more : ∀ error, retried error = true → other error = true)
    (reads : readAll retried file size = some bytes) : readAll other file size = some bytes := by
  have whole := reads
  unfold readAll at whole
  split at whole
  · rename_i complete
    have completes := progress_mono more complete
    obtain ⟨others, read⟩ : ∃ others, readAll other file size = some others :=
      readAll_of_complete completes
    rw [read, Option.some.injEq]
    apply Subtype.ext
    rw [readAll_eq_some read, readAll_eq_some reads]
  · cases whole

end

end FileRead
