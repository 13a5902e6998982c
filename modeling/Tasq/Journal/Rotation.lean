import Mathlib.Tactic
import Tasq.Lib.Run

/-! The command journal: any number of processes append their record to one file, and the one that
    would grow it past its bound rewrites it first, under a lock file, one file operation at a time
    and in any order.

    A process that has read a lock file of a dead holder, or an empty one, removes whatever stands
    at the path by then. Appends take no lock, so a record that is written between the read and the
    rename of a rotation, or to the file that a rename has replaced, is gone. -/

namespace Tasq

open Run

/-- `MAX_BYTES` -/
def maxJournalBytes : ℕ := 4 * 1024 * 1024

/-- `lines.slice(Math.floor(lines.length * (1 - KEEP_ON_ROTATE)))` -/
def keptOnRotate {Line : Type} (lines : List Line) : List Line := lines.drop (lines.length / 4)

/-- The oldest quarter, which a rotation drops. -/
def droppedOnRotate {Line : Type} (lines : List Line) : List Line := lines.take (lines.length / 4)

/-- The next file operation of a call of `recordCommand`. `lock` is the file that the call created
    at the path of the lock. -/
inductive RecordStage (Line : Type) where
  /-- `existsSync(path)` and `lstatSync(path)`. -/
  | looking
  /-- `readFileSync(lock)` -/
  | readingLock
  /-- `process.kill(holder, 0)` -/
  | probing (holder : ℕ)
  /-- `unlinkSync(lock)`: the lock that was read is empty, or its holder is dead. -/
  | reclaiming
  /-- `openSync(lock, O_CREAT | O_EXCL)` -/
  | locking
  /-- `writeSync(fd, ownPid)` -/
  | signing (lock : ℕ)
  /-- `readFileSync(path)` -/
  | reading (lock : ℕ)
  /-- `writeFileSync(temporary)` -/
  | copying (lock : ℕ) (lines : List Line)
  /-- `renameSync(temporary, path)` -/
  | replacing (lock : ℕ) (lines : List Line)
  /-- `existsSync(lock)` -/
  | checkingLock (lock : ℕ)
  /-- `unlinkSync(lock)`, in the end. -/
  | unlocking (lock : ℕ)
  /-- `openSync(path, O_APPEND | O_CREAT)` -/
  | opening
  /-- `writeSync(fd, line)` -/
  | writing (file : ℕ)
  | done
  | failed
  | crashed
  deriving DecidableEq

namespace RecordStage

variable {Line : Type}

/-- From the creation of the lock to its removal, in a process that is alive. -/
def holds : RecordStage Line → Option ℕ
  | signing lock | reading lock | copying lock _ | replacing lock _ | checkingLock lock
  | unlocking lock => some lock
  | _ => none

/-- The call rewrites the file. -/
def rewrites : RecordStage Line → Bool
  | reading _ | copying _ _ | replacing _ _ => true
  | _ => false

/-- The process is gone. -/
def gone : RecordStage Line → Bool
  | done | failed | crashed => true
  | _ => false

theorem holds_of_rewrites {stage : RecordStage Line} (h : stage.rewrites = true) :
    ∃ lock, stage.holds = some lock := by
  cases stage <;> first | exact ⟨_, rfl⟩ | cases h

end RecordStage

/-- A process that records one command. -/
structure RecordCall (Line : Type) where
  pid : ℕ
  line : Line
  stage : RecordStage Line
  deriving DecidableEq

/-- The files and the processes. `journal` and `lock` are the files at the two paths. -/
structure JournalWorld (Line : Type) where
  journal : Option ℕ
  lock : Option ℕ
  /-- The lines of the journal files. -/
  lines : ℕ → List Line
  /-- The process that a lock file names, once it is written. -/
  holder : ℕ → Option ℕ
  nextFile : ℕ
  calls : List (RecordCall Line)
  /-- The records whose write is complete. -/
  written : List Line
  /-- The records that a rotation dropped as the oldest quarter of what it read. -/
  dropped : List Line

/-- What `process.kill(holder, 0)` meets besides the calls that are running. -/
inductive Probe where
  | nothing
  /-- A process of another program has the number, and takes the signal. -/
  | foreign
  /-- `EPERM`: a process of another user has the number. -/
  | forbidden
  deriving DecidableEq

/-- What happens next. -/
inductive JournalAction (Line : Type) where
  | start (pid : ℕ) (line : Line)
  | crash (call : ℕ)
  | advance (call : ℕ) (probe : Probe)

namespace JournalWorld

variable {Line : Type} (bytes : Line → ℕ) (s : JournalWorld Line)

/-- The lines at the path of the journal. -/
def content : List Line := (s.journal.map s.lines).getD []

/-- `info.size` -/
def size : ℕ := (s.content.map bytes).sum

/-- A process of this number runs. -/
def alive (pid : ℕ) : Bool := s.calls.any fun c => c.pid = pid && !c.stage.gone

/-- The next operation of `recordCommand`, or of `rotate` inside it. A holder that is found alive
    still sends the call to the exclusive creation, which succeeds if the lock is gone by then. -/
def move (c : RecordCall Line) (probe : Probe) : JournalWorld Line × RecordStage Line :=
  match c.stage with
  | .looking =>
    (s, if s.journal.isSome ∧ maxJournalBytes < s.size bytes + bytes c.line then .readingLock
      else .opening)
  | .readingLock =>
    match s.lock with
    | none => (s, .locking)
    | some lock =>
      match s.holder lock with
      | none => (s, .reclaiming)
      | some holder => (s, .probing holder)
  | .probing holder =>
    (s, match probe with
      | .forbidden => .opening
      | .foreign => .locking
      | .nothing => if s.alive holder then .locking else .reclaiming)
  | .reclaiming => ({ s with lock := none }, .locking)
  | .locking =>
    if s.lock.isSome then (s, .opening)
    else
      ({ s with
          lock := some s.nextFile
          holder := Function.update s.holder s.nextFile none
          nextFile := s.nextFile + 1 },
        .signing s.nextFile)
  | .signing lock =>
    ({ s with holder := Function.update s.holder lock (some c.pid) }, .reading lock)
  | .reading lock => (s, .copying lock s.content)
  | .copying lock lines => (s, .replacing lock lines)
  | .replacing lock lines =>
    ({ s with
        journal := some s.nextFile
        lines := Function.update s.lines s.nextFile (keptOnRotate lines)
        nextFile := s.nextFile + 1
        dropped := s.dropped ++ droppedOnRotate lines },
      .checkingLock lock)
  | .checkingLock lock => (s, if s.lock.isSome then .unlocking lock else .opening)
  | .unlocking _ => if s.lock.isSome then ({ s with lock := none }, .opening) else (s, .failed)
  | .opening =>
    match s.journal with
    | some file => (s, .writing file)
    | none =>
      ({ s with
          journal := some s.nextFile
          lines := Function.update s.lines s.nextFile []
          nextFile := s.nextFile + 1 },
        .writing s.nextFile)
  | .writing file =>
    ({ s with
        lines := Function.update s.lines file (s.lines file ++ [c.line])
        written := s.written ++ [c.line] },
      .done)
  | stage => (s, stage)

/-- One action. A process that is gone does nothing. -/
def step (s : JournalWorld Line) : JournalAction Line → JournalWorld Line
  | .start pid line => { s with calls := s.calls ++ [⟨pid, line, .looking⟩] }
  | .crash call =>
    match s.calls[call]? with
    | none => s
    | some c =>
      if c.stage.gone then s else { s with calls := s.calls.set call { c with stage := .crashed } }
  | .advance call probe =>
    match s.calls[call]? with
    | none => s
    | some c =>
      { (s.move bytes c probe).1 with
        calls := s.calls.set call { c with stage := (s.move bytes c probe).2 } }

/-- A journal before any process runs: its lines, if there is one yet, and a lock that a dead
    process may have left, empty or with its number. -/
def opened (lines : Option (List Line)) (lock : Option (Option ℕ)) : JournalWorld Line where
  journal := lines.map fun _ => 0
  lock := lock.map fun _ => 1
  lines _ := lines.getD []
  holder _ := lock.join
  nextFile := 2
  calls := []
  written := lines.getD []
  dropped := []

/-! ### What is promised, and what can go wrong -/

/-- At most one process at a time rewrites the file, and a record whose write is complete is in the
    file, or among the records that a rotation dropped. -/
structure Kept (s : JournalWorld Line) : Prop where
  alone : ∀ (i j : ℕ) (c d : RecordCall Line), s.calls[i]? = some c → s.calls[j]? = some d →
    c.stage.rewrites = true → d.stage.rewrites = true → i = j
  records : (s.content ++ s.dropped).Perm s.written

/-- The next operation of the call hits what it means to: a removal takes the lock from no running
    process, a rename replaces the lines that the rotation has read, and a write goes to the file
    that is the journal. -/
def Hits (s : JournalWorld Line) (c : RecordCall Line) : Prop :=
  match c.stage with
  | .reclaiming => ∀ lock ∈ s.lock, ∀ d ∈ s.calls, d.stage.holds ≠ some lock
  | .replacing _ lines => s.content = lines
  | .writing file => s.journal = some file
  | _ => True

instance decidableHits [DecidableEq Line] (s : JournalWorld Line) (c : RecordCall Line) :
    Decidable (s.Hits c) := by
  unfold Hits
  cases c.stage <;> infer_instance

/-- The operation that the action takes hits what it means to. -/
def Undisturbed (s : JournalWorld Line) : JournalAction Line → Prop
  | .advance call _ => ∀ c ∈ s.calls[call]?, s.Hits c
  | _ => True

instance decidableUndisturbed [DecidableEq Line] (s : JournalWorld Line) :
    DecidablePred s.Undisturbed
  | .start _ _ => isTrue trivial
  | .crash _ => isTrue trivial
  | .advance call _ => inferInstanceAs (Decidable (∀ c ∈ s.calls[call]?, s.Hits c))

/-- INVARIANT: who holds a lock holds the one at the path, and alone. -/
structure Sound (s : JournalWorld Line) : Prop where
  held : ∀ (i lock : ℕ) (c : RecordCall Line), s.calls[i]? = some c → c.stage.holds = some lock →
    s.lock = some lock
  once : ∀ (i j lock : ℕ) (c d : RecordCall Line), s.calls[i]? = some c → s.calls[j]? = some d →
    c.stage.holds = some lock → d.stage.holds = some lock → i = j
  records : (s.content ++ s.dropped).Perm s.written

/-- Whether a run is undisturbed can be computed. -/
instance decidableUndisturbedAlong [DecidableEq Line]
    (step : JournalWorld Line → JournalAction Line → JournalWorld Line) : ∀ s actions,
      Decidable (Along step Undisturbed s actions)
  | _, [] => isTrue trivial
  | s, a :: actions =>
    have := decidableUndisturbedAlong step (step s a) actions
    inferInstanceAs (Decidable (s.Undisturbed a ∧ Along step Undisturbed (step s a) actions))

variable {bytes : Line → ℕ} {s : JournalWorld Line} {c : RecordCall Line} {probe : Probe}

theorem Sound.kept (h : s.Sound) : s.Kept where
  alone i j c d hc hd hrewrites hrewrites' := by
    obtain ⟨lock, hlock⟩ := RecordStage.holds_of_rewrites hrewrites
    obtain ⟨lock', hlock'⟩ := RecordStage.holds_of_rewrites hrewrites'
    have hsame : lock = lock' :=
      Option.some.inj ((h.held i lock c hc hlock).symm.trans (h.held j lock' d hd hlock'))
    exact h.once i j lock c d hc hd hlock (hsame ▸ hlock')
  records := h.records

/-! ### What a step does -/

/-- What the operation does to the lock: nothing, take it, or remove it. -/
theorem move_lock (bytes : Line → ℕ) (s : JournalWorld Line) (c : RecordCall Line)
    (probe : Probe) :
    ((s.move bytes c probe).1.lock = s.lock ∧
        ((s.move bytes c probe).2.holds = c.stage.holds ∨
          (s.move bytes c probe).2.holds = none)) ∨
      (s.lock = none ∧ (s.move bytes c probe).1.lock = some s.nextFile ∧
        (s.move bytes c probe).2.holds = some s.nextFile) ∨
      ((s.move bytes c probe).1.lock = none ∧ (s.move bytes c probe).2.holds = none ∧
        (c.stage = .reclaiming ∨ ∃ lock, c.stage = .unlocking lock)) := by
  unfold move
  cases c.stage with
  | looking => exact .inl ⟨rfl, .inr (by dsimp only; split <;> rfl)⟩
  | readingLock =>
    refine .inl ?_
    dsimp only
    split
    · exact ⟨rfl, .inr rfl⟩
    · split <;> exact ⟨rfl, .inr rfl⟩
  | probing holder =>
    refine .inl ?_
    dsimp only
    split
    · exact ⟨rfl, .inr rfl⟩
    · exact ⟨rfl, .inr rfl⟩
    · split <;> exact ⟨rfl, .inr rfl⟩
  | reclaiming => exact .inr (.inr ⟨rfl, rfl, .inl rfl⟩)
  | locking =>
    dsimp only
    split
    · exact .inl ⟨rfl, .inr rfl⟩
    · rename_i hnone
      exact .inr (.inl ⟨by simpa using hnone, rfl, rfl⟩)
  | signing lock => exact .inl ⟨rfl, .inl rfl⟩
  | reading lock => exact .inl ⟨rfl, .inl rfl⟩
  | copying lock lines => exact .inl ⟨rfl, .inl rfl⟩
  | replacing lock lines => exact .inl ⟨rfl, .inl rfl⟩
  | checkingLock lock =>
    dsimp only
    split
    · exact .inl ⟨rfl, .inl rfl⟩
    · exact .inl ⟨rfl, .inr rfl⟩
  | unlocking lock =>
    dsimp only
    split
    · exact .inr (.inr ⟨rfl, rfl, .inr ⟨lock, rfl⟩⟩)
    · exact .inl ⟨rfl, .inr rfl⟩
  | opening =>
    refine .inl ?_
    dsimp only
    split <;> exact ⟨rfl, .inr rfl⟩
  | writing file => exact .inl ⟨rfl, .inr rfl⟩
  | done => exact .inl ⟨rfl, .inl rfl⟩
  | failed => exact .inl ⟨rfl, .inl rfl⟩
  | crashed => exact .inl ⟨rfl, .inl rfl⟩

/-- The records stay together: a rename drops what it says, a write adds its record. -/
theorem move_records (hrecords : (s.content ++ s.dropped).Perm s.written)
    (hrename : ∀ lock lines, c.stage = .replacing lock lines → s.content = lines)
    (hwrite : ∀ file, c.stage = .writing file → s.journal = some file) :
    ((s.move bytes c probe).1.content ++ (s.move bytes c probe).1.dropped).Perm
      (s.move bytes c probe).1.written := by
  unfold move
  cases hstage : c.stage with
  | replacing lock lines =>
    have hlines := hrename lock lines hstage
    have hparts : (keptOnRotate lines ++ droppedOnRotate lines).Perm lines :=
      List.perm_append_comm.trans (.of_eq (List.take_append_drop _ lines))
    have hsplit : (keptOnRotate lines ++ (s.dropped ++ droppedOnRotate lines)).Perm
        (lines ++ s.dropped) := by
      refine (List.perm_append_comm.append_left _).trans ?_
      rw [← List.append_assoc]
      exact hparts.append_right _
    simpa [content] using hsplit.trans (hlines ▸ hrecords)
  | writing file =>
    have hjournal := hwrite file hstage
    have hcontent : s.content = s.lines file := by simp [content, hjournal]
    rw [hcontent] at hrecords
    have hadded : (s.lines file ++ [c.line] ++ s.dropped).Perm (s.written ++ [c.line]) := by
      rw [List.append_assoc]
      exact (List.perm_append_comm.append_left _).trans
        ((List.append_assoc _ _ _).symm ▸ hrecords.append_right _)
    simpa [content, hjournal] using hadded
  | opening =>
    dsimp only
    split
    · exact hrecords
    · rename_i hnone
      simpa [content, hnone] using hrecords
  | locking =>
    dsimp only
    split <;> exact hrecords
  | unlocking lock =>
    dsimp only
    split <;> exact hrecords
  | readingLock =>
    dsimp only
    split
    · exact hrecords
    · split <;> exact hrecords
  | _ => exact hrecords

/-! ### Runs -/

/-- After a step of one call, every other is what it was. -/
theorem getElem?_set_cases {calls : List (RecordCall Line)} {i k : ℕ} {x d : RecordCall Line}
    (h : (calls.set k x)[i]? = some d) : i = k ∧ d = x ∨ i ≠ k ∧ calls[i]? = some d := by
  by_cases hi : i = k
  · subst hi
    rw [List.getElem?_set_self'] at h
    obtain ⟨_, -, rfl⟩ := Option.map_eq_some_iff.1 h
    exact .inl ⟨rfl, rfl⟩
  · rw [List.getElem?_set_ne (Ne.symm hi)] at h
    exact .inr ⟨hi, h⟩

/-- A call that lets go of its lock leaves the others theirs. -/
theorem Sound.release {s₁ : JournalWorld Line} {k : ℕ} {x : RecordCall Line} (h : s.Sound)
    (hcalls : s₁.calls = s.calls.set k x) (hx : x.stage.holds = none)
    (hlock : s₁.lock = s.lock ∨ ∀ i d lock, i ≠ k → s.calls[i]? = some d →
      d.stage.holds ≠ some lock)
    (hrecords : (s₁.content ++ s₁.dropped).Perm s₁.written) : s₁.Sound := by
  have hother : ∀ i d lock, s₁.calls[i]? = some d → d.stage.holds = some lock →
      i ≠ k ∧ s.calls[i]? = some d := by
    intro i d lock hd hholds
    rw [hcalls] at hd
    obtain ⟨-, rfl⟩ | hd := getElem?_set_cases hd
    · rw [hx] at hholds
      cases hholds
    · exact hd
  refine ⟨fun i lock d hd hholds => ?_, fun i j lock d e hd he hholds hholds' => ?_, hrecords⟩
  · obtain ⟨hi, hd⟩ := hother i d lock hd hholds
    obtain hlock | hnone := hlock
    · rw [hlock]
      exact h.held i lock d hd hholds
    · exact absurd hholds (hnone i d lock hi hd)
  · exact h.once i j lock d e (hother i d lock hd hholds).2 (hother j e lock he hholds').2 hholds
      hholds'

/-- A call that keeps its lock, or takes the one that it has just created. -/
theorem sound_keep {s₁ : JournalWorld Line} {k lock : ℕ} {x : RecordCall Line}
    (hcalls : s₁.calls = s.calls.set k x) (hx : x.stage.holds = some lock)
    (hlock : s₁.lock = some lock)
    (hothers : ∀ i d lock', i ≠ k → s.calls[i]? = some d → d.stage.holds ≠ some lock')
    (hrecords : (s₁.content ++ s₁.dropped).Perm s₁.written) : s₁.Sound := by
  have hmine : ∀ i d lock', s₁.calls[i]? = some d → d.stage.holds = some lock' →
      i = k ∧ lock' = lock := by
    intro i d lock' hd hholds
    rw [hcalls] at hd
    obtain ⟨rfl, rfl⟩ | ⟨hi, hd⟩ := getElem?_set_cases hd
    · exact ⟨rfl, Option.some.inj (hholds.symm.trans hx)⟩
    · exact absurd hholds (hothers i d lock' hi hd)
  refine ⟨fun i lock' d hd hholds => ?_, fun i j lock' d e hd he hholds hholds' => ?_, hrecords⟩
  · rw [(hmine i d lock' hd hholds).2, hlock]
  · rw [(hmine i d lock' hd hholds).1, (hmine j e lock' he hholds').1]

/-- While one call holds the lock, no other does. -/
theorem Sound.others {k lock : ℕ} (h : s.Sound) (hc : s.calls[k]? = some c)
    (hholds : c.stage.holds = some lock) (i : ℕ) (d : RecordCall Line) (lock' : ℕ) (hi : i ≠ k)
    (hd : s.calls[i]? = some d) : d.stage.holds ≠ some lock' := by
  intro hholds'
  have hsame : lock' = lock :=
    Option.some.inj ((h.held i lock' d hd hholds').symm.trans (h.held k lock c hc hholds))
  exact hi (h.once i k lock d c hd hc (hsame ▸ hholds') hholds)

/-- STEP: an undisturbed operation of one call. -/
theorem Sound.advance {k : ℕ} (h : s.Sound) (hc : s.calls[k]? = some c)
    (hmeets : s.Undisturbed (.advance k probe)) : (s.step bytes (.advance k probe)).Sound := by
  have hmeets : s.Hits c := hmeets c hc
  have hrecords : ((s.move bytes c probe).1.content ++ (s.move bytes c probe).1.dropped).Perm
      (s.move bytes c probe).1.written := move_records h.records
    (fun lock lines hstage => by rw [Hits, hstage] at hmeets; exact hmeets)
    (fun file hstage => by rw [Hits, hstage] at hmeets; exact hmeets)
  have hstep : s.step bytes (.advance k probe) =
      { (s.move bytes c probe).1 with
        calls := s.calls.set k { c with stage := (s.move bytes c probe).2 } } := by
    simp only [step, hc]
  rw [hstep]
  obtain ⟨hlock, hholds | hholds⟩ | ⟨hfree, hlock, hholds⟩ | ⟨hlock, hholds, hstage⟩ :=
    move_lock bytes s c probe
  · cases hmine : c.stage.holds with
    | none => exact h.release rfl (hholds.trans hmine) (.inl hlock) hrecords
    | some lock =>
      exact sound_keep rfl (hholds.trans hmine) (hlock.trans (h.held k lock c hc hmine))
        (h.others hc hmine) hrecords
  · exact h.release rfl hholds (.inl hlock) hrecords
  · refine sound_keep rfl hholds hlock (fun i d lock _ hd hother => ?_) hrecords
    have hheld := h.held i lock d hd hother
    rw [hfree] at hheld
    cases hheld
  · refine h.release rfl hholds (.inr fun i d lock hi hd hother => ?_) hrecords
    obtain hstage | ⟨lock', hstage⟩ := hstage
    · rw [Hits, hstage] at hmeets
      exact hmeets lock (h.held i lock d hd hother) d (List.mem_of_getElem? hd) hother
    · have hmine : c.stage.holds = some lock' := by rw [hstage]; rfl
      exact h.others hc hmine i d lock hi hd hother

/-- STEP: an undisturbed action keeps the lock with one call and the records together. -/
theorem Sound.step (h : s.Sound) {a : JournalAction Line} (hmeets : s.Undisturbed a) :
    (s.step bytes a).Sound := by
  cases a with
  | start pid line =>
    have hold : ∀ (i lock : ℕ) (d : RecordCall Line),
        (s.calls ++ [⟨pid, line, .looking⟩])[i]? = some d → d.stage.holds = some lock →
          s.calls[i]? = some d := by
      intro i lock d hd hholds
      rw [List.getElem?_append] at hd
      split at hd
      · exact hd
      · obtain rfl := List.mem_singleton.1 (List.mem_of_getElem? hd)
        cases hholds
    exact ⟨fun i lock d hd hholds => h.held i lock d (hold i lock d hd hholds) hholds,
      fun i j lock d e hd he hholds hholds' => h.once i j lock d e (hold i lock d hd hholds)
        (hold j lock e he hholds') hholds hholds', h.records⟩
  | crash call =>
    cases hc : s.calls[call]? with
    | none => simpa only [JournalWorld.step, hc] using h
    | some c =>
      simp only [JournalWorld.step, hc]
      split
      · exact h
      · exact h.release rfl rfl (.inl rfl) h.records
  | advance call probe =>
    cases hc : s.calls[call]? with
    | none => simpa only [JournalWorld.step, hc] using h
    | some c => exact h.advance hc hmeets

theorem sound_opened (lines : Option (List Line)) (lock : Option (Option ℕ)) :
    (opened lines lock).Sound where
  held i lock' c hc := by simp [opened] at hc
  once i j lock' c d hc := by simp [opened] at hc
  records := by cases lines <;> simp [opened, content]

/-- CORRECT: as long as no removal takes the lock from a running process, no rename replaces lines
    that the rotation has not read, and no write goes to a file that was replaced, at most one
    process rewrites the file, and a written record is in it or was dropped as one of the oldest
    quarter. -/
theorem records_survive (bytes : Line → ℕ) (lines : Option (List Line)) (lock : Option (Option ℕ))
    (actions : List (JournalAction Line))
    (hundisturbed : Along (JournalWorld.step bytes) Undisturbed (opened lines lock) actions) :
    (run (JournalWorld.step bytes) (opened lines lock) actions).Kept :=
  (run_invariant (fun _ _ hmeets h => Sound.step h hmeets) hundisturbed
    (sound_opened lines lock)).kept

/-- A process takes its next `n` operations, and no other program has the number it probes. -/
def advances (call n : ℕ) : List (JournalAction ℕ) := List.replicate n (.advance call .nothing)

/-! ### Eight lines of half a megabyte -/

/-- A full journal, and the lock of a process that died. -/
def fullJournal : JournalWorld ℕ :=
  opened (some [10, 20, 30, 40, 50, 60, 70, 80]) (some (some 99))

/-- Two processes find the journal full: 100 takes over the lock of the dead one, 101 finds it held
    by 100, rotates as soon as 100 has let go, and both append. -/
def twoRotations : List (JournalAction ℕ) :=
  [.start 100 91, .start 101 92] ++ advances 0 6 ++ advances 1 2 ++ advances 0 5 ++ advances 1 8 ++
    advances 0 2 ++ advances 1 2

theorem records_survive_plain :
    let s := run (JournalWorld.step fun _ => 512 * 1024) fullJournal twoRotations
    s.Kept ∧ s.content = [40, 50, 60, 70, 80, 91, 92] ∧ s.dropped = [10, 20, 30] := by
  intro s
  exact ⟨records_survive (fun _ => 512 * 1024) (some [10, 20, 30, 40, 50, 60, 70, 80])
    (some (some 99)) twoRotations (by decide +kernel), by decide +kernel⟩

/-! ### Four lines of a megabyte -/

/-- Four records of a quarter of the bound each. -/
def plainJournal : JournalWorld ℕ := opened (some [10, 20, 30, 40]) none

/-- NOT SO: a record that is written while a rotation runs is lost; and a process that reads the
    lock before its holder has written into it removes it, so that two processes rewrite the file
    at once. -/
theorem records_lost :
    (let s := run (JournalWorld.step fun _ => 1024 * 1024) plainJournal
      (.start 100 50 :: advances 0 6 ++ .start 101 60 :: advances 1 6 ++ advances 0 5)
    60 ∈ s.written ∧ 60 ∉ s.content ∧ 60 ∉ s.dropped ∧ ¬ s.Kept) ∧
    ¬ (run (JournalWorld.step fun _ => 1024 * 1024) plainJournal
      (.start 100 50 :: advances 0 3 ++ .start 101 60 :: advances 1 5 ++ advances 0 1)).Kept := by
  refine ⟨⟨by decide +kernel, by decide +kernel, by decide +kernel, fun h => ?_⟩, fun h => ?_⟩
  · have hlost := h.records.mem_iff (a := 60)
    revert hlost
    decide +kernel
  · have halone := h.alone 0 1 ⟨100, 50, .reading 2⟩ ⟨101, 60, .reading 3⟩ (by decide +kernel)
      (by decide +kernel) rfl rfl
    cases halone

end JournalWorld

end Tasq
