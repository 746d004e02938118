import StsGateway.Data.Transition
import StsGateway.Backup.Cleanup

namespace StsGateway

open Data

/-! Backup creation and backup cleanup, interleaved on one folder.

The scheduler thread queues a backup and walks the folder: it lists names,
reads the metadata of each listed name and removes the expired files. The
storage thread works through the queue: it creates the `.db` file, copies the
pages, reads the file back, writes the `.db.zst` file and removes the `.db`
file. While it writes a database, SQLite creates and removes files of its own
beside it, the rollback journal above all. Operations on a file that exists
succeed; asking for the metadata of a vanished file, reading it or removing it
fails. Truncations touch no other file, and entries that are not regular files
are never removed, so both are left out.
-/

/-- What SQLite does in the folder: the database the storage thread has open, and
the files that it may keep beside a database while it writes it. -/
structure SqliteFiles where
  database : PathBuf
  beside : PathBuf → List PathBuf

namespace BackupRace

/-- Where the scheduler stands; `listed` are names not yet inspected. A file that is made
anew under a name that was inspected may be listed again. -/
inductive Walk where
  | idle
  | walking (cutoff : SystemTime) (listed : List PathBuf)
  | removing (cutoff : SystemTime) (path : PathBuf) (listed : List PathBuf)
  | panicked
deriving DecidableEq

inductive Creation where
  | idle
  | copying (path : PathBuf)
  | reading (path : PathBuf)
  | writing (path : PathBuf)
  | removing (path : PathBuf)
  | panicked
deriving DecidableEq

/-- `journals` are the files that SQLite keeps beside a database at the moment;
`broken` says that one of them was taken from it. -/
structure State where
  files : HashMap PathBuf SystemTime
  queue : List PathBuf
  walk : Walk
  creation : Creation
  journals : List PathBuf
  broken : Bool
deriving DecidableEq

inductive Step where
  | startJob (path : PathBuf) (now : SystemTime)
  | list (names : List PathBuf)
  | inspect
  | removeOld
  | endWalk
  | takeBackup (now : SystemTime)
  | openJournal (path : PathBuf) (now : SystemTime)
  | closeJournal (path : PathBuf)
  | sqliteFails
  | copied
  | readBack
  | writeCompressed (now : SystemTime)
  | removeCopy

/-- The steps of the scheduler thread; the others are the storage thread's. -/
def Step.OfWalk : Step → Prop
  | startJob _ _ | list _ | inspect | removeOld | endWalk => True
  | _ => False

def Walk.listed : Walk → List PathBuf
  | walking _ listed | removing _ _ listed => listed
  | idle | panicked => []

def Creation.file? : Creation → Option PathBuf
  | copying path | reading path | writing path | removing path => some path
  | idle | panicked => none

/-- The databases that SQLite may be writing. -/
def Creation.databases (sqlite : SqliteFiles) : Creation → List PathBuf
  | copying path => [sqlite.database, path]
  | idle | reading _ | writing _ | removing _ | panicked => [sqlite.database]

/-- The copy is written to a file that was unlinked. -/
def State.copyVanished (state : State) : Prop :=
  ∃ path, state.creation = .copying path ∧ path ∉ state.files

instance (state : State) : Decidable state.copyVanished :=
  match creation : state.creation with
  | .copying path => decidable_of_iff (path ∉ state.files) (by simp [State.copyVanished, creation])
  | .idle | .reading _ | .writing _ | .removing _ | .panicked =>
      isFalse (by simp [State.copyVanished, creation])

/-- Creating or opening a file; an existing one keeps its creation time. -/
def touch (files : HashMap PathBuf SystemTime) (path : PathBuf) (now : SystemTime) :
    HashMap PathBuf SystemTime :=
  if path ∈ files then files else files.insert path now

def step (sqlite : SqliteFiles) (profile : Profile) (backupTtl : Int32) (state : State) :
    Step → Option State
  | .startJob path now =>
      match state.walk, olderThan profile backupTtl now with
      | .idle, .ok cutoff =>
          some { state with queue := state.queue ++ [path], walk := .walking cutoff [] }
      | .idle, .error _ => some { state with queue := state.queue ++ [path], walk := .panicked }
      | _, _ => none
  | .list names =>
      match state.walk with
      | .walking cutoff listed =>
          if (listed ++ names).Nodup ∧ ∀ name ∈ names, name ∈ state.files then
            some { state with walk := .walking cutoff (listed ++ names) }
          else none
      | _ => none
  | .inspect =>
      match state.walk with
      | .walking cutoff (path :: listed) =>
          match state.files.lookup path with
          | none => some { state with walk := .panicked }
          | some created =>
              if created.nanos < cutoff.nanos then
                some { state with walk := .removing cutoff path listed }
              else some { state with walk := .walking cutoff listed }
      | _ => none
  | .removeOld =>
      match state.walk with
      | .removing cutoff path listed =>
          some { state with
            files := state.files.erase path
            walk := .walking cutoff listed }
      | _ => none
  | .endWalk =>
      match state.walk with
      | .walking _ [] => some { state with walk := .idle }
      | _ => none
  | .takeBackup now =>
      match state.creation, state.queue with
      | .idle, path :: queue =>
          some { state with
            files := touch state.files path now
            queue
            creation := .copying path }
      | _, _ => none
  | .openJournal path now =>
      if (∃ database ∈ state.creation.databases sqlite, path ∈ sqlite.beside database) ∧
          path ∉ state.journals then
        some { state with
          files := touch state.files path now
          journals := path :: state.journals }
      else none
  | .closeJournal path =>
      if path ∈ state.journals then
        if path ∈ state.files then
          some { state with files := state.files.erase path, journals := state.journals.erase path }
        else some { state with journals := state.journals.erase path, broken := true }
      else none
  | .sqliteFails =>
      -- a copy that fails and a transaction that cannot be finished both panic
      match state.creation with
      | .idle | .copying _ =>
          if state.broken ∨ state.copyVanished then some { state with creation := .panicked }
          else none
      | _ => none
  | .copied =>
      match state.creation with
      | .copying path => some { state with creation := .reading path }
      | _ => none
  | .readBack =>
      match state.creation with
      | .reading path =>
          if path ∈ state.files then some { state with creation := .writing path }
          else some { state with creation := .panicked }
      | _ => none
  | .writeCompressed now =>
      match state.creation with
      | .writing path =>
          some { state with
            files := touch state.files (path.withExtension "db.zst") now
            creation := .removing path }
      | _ => none
  | .removeCopy =>
      match state.creation with
      | .removing path =>
          if path ∈ state.files then
            some { state with files := state.files.erase path, creation := .idle }
          else some { state with creation := .panicked }
      | _ => none

def machine (sqlite : SqliteFiles) (profile : Profile) (backupTtl : Int32)
    (files : HashMap PathBuf SystemTime) : Machine State Step where
  start := ⟨files, [], .idle, .idle, [], false⟩
  step := step sqlite profile backupTtl

def NeitherPanics (state : State) : Prop :=
  state.walk ≠ .panicked ∧ state.creation ≠ .panicked

/-- Nobody removes a name that another still needs: one listed and not yet inspected, the
file of the backup in progress, or a file that SQLite keeps. And the cutoff is a time. -/
def Undisturbed (profile : Profile) (backupTtl : Int32) (state : State) : Step → Prop
  | .startJob _ now => (olderThan profile backupTtl now).isOk = true
  | .removeOld =>
      match state.walk with
      | .removing _ path _ => path ∉ state.creation.file?.toList ++ state.journals
      | _ => True
  | .closeJournal path => path ∉ state.walk.listed ++ state.creation.file?.toList
  | .removeCopy =>
      match state.creation with
      | .removing path => path ∉ state.walk.listed ++ state.journals
      | _ => True
  | _ => True

instance (profile : Profile) (backupTtl : Int32) (state : State) :
    ∀ label, Decidable (Undisturbed profile backupTtl state label)
  | .startJob _ _ => inferInstanceAs (Decidable (_ = true))
  | .removeOld =>
      match walk : state.walk with
      | .removing _ path _ =>
          decidable_of_iff (path ∉ state.creation.file?.toList ++ state.journals)
            (by rw [Undisturbed, walk])
      | .idle | .walking _ _ | .panicked => isTrue (by rw [Undisturbed, walk]; trivial)
  | .closeJournal path =>
      inferInstanceAs (Decidable (path ∉ state.walk.listed ++ state.creation.file?.toList))
  | .removeCopy =>
      match creation : state.creation with
      | .removing path => decidable_of_iff (path ∉ state.walk.listed ++ state.journals)
          (by rw [Undisturbed, creation])
      | .idle | .copying _ | .reading _ | .writing _ | .panicked =>
          isTrue (by rw [Undisturbed, creation]; trivial)
  | .list _ | .inspect | .endWalk | .takeBackup _ | .openJournal _ _ | .sqliteFails | .copied
  | .readBack | .writeCompressed _ => isTrue trivial

/-- The names that a thread or SQLite still has to find. -/
def State.needed (state : State) : List PathBuf :=
  state.walk.listed ++ state.creation.file?.toList ++ state.journals

/-- Every needed name exists, and the file about to be removed is not listed again. -/
structure Present (state : State) : Prop where
  alive : NeitherPanics state
  whole : state.broken = false
  found : ∀ path ∈ state.needed, path ∈ state.files
  distinct : state.walk.listed.Nodup
  removed : ∀ cutoff path listed, state.walk = .removing cutoff path listed → path ∉ listed
  journals : state.journals.Nodup

section Steps

variable {sqlite : SqliteFiles} {profile : Profile} {backupTtl : Int32} {before next : State}

theorem mem_touch {files : HashMap PathBuf SystemTime} {path other : PathBuf} {now : SystemTime} :
    other ∈ touch files path now ↔ other = path ∨ other ∈ files := by
  unfold touch
  split
  · rename_i present
    refine ⟨.inr, ?_⟩
    intro found
    rcases found with rfl | found
    · exact present
    · exact found
  · exact Finmap.mem_insert

theorem lookup_touch_ne {files : HashMap PathBuf SystemTime} {path other : PathBuf} {now : SystemTime}
    (different : other ≠ path) : (touch files path now).lookup other = files.lookup other := by
  unfold touch
  split
  · rfl
  · exact Finmap.lookup_insert_of_ne _ different

theorem mem_needed {state : State} {path : PathBuf} :
    path ∈ state.needed ↔
      path ∈ state.walk.listed ∨ state.creation.file? = some path ∨ path ∈ state.journals := by
  simp only [State.needed, List.mem_append, Option.mem_toList, or_assoc]

/-- What is still needed after a removal is found if it was needed before and is not
the name removed. -/
theorem found_erase {removed : PathBuf} {state : State} (holds : Present before)
    (files : state.files = before.files.erase removed)
    (kept : ∀ path ∈ state.needed, path ∈ before.needed) (unneeded : removed ∉ state.needed) :
    ∀ path ∈ state.needed, path ∈ state.files := by
  intro path needed
  rw [files]
  refine Finmap.mem_erase.mpr ⟨?_, holds.found path (kept path needed)⟩
  intro same
  exact unneeded (same ▸ needed)

theorem not_copyVanished (holds : Present before) : ¬before.copyVanished := by
  intro vanished
  obtain ⟨path, copying, absent⟩ := vanished
  exact absent (holds.found path (mem_needed.mpr (.inr (.inl (by rw [copying]; rfl)))))

/-- Steps that remove no file keep what is found, as long as they ask for no more names
than were needed before or exist now. -/
theorem found_more {state : State} (holds : Present before)
    (kept : ∀ path ∈ before.files, path ∈ state.files)
    (needed : ∀ path ∈ state.needed, path ∈ before.needed ∨ path ∈ state.files) :
    ∀ path ∈ state.needed, path ∈ state.files := by
  intro path later
  rcases needed path later with earlier | present
  · exact kept path (holds.found path earlier)
  · exact present

theorem walk_present {label : Step} (holds : Present before)
    (undisturbed : Undisturbed profile backupTtl before label)
    (walks : label.OfWalk)
    (stepped : step sqlite profile backupTtl before label = some next) : Present next := by
  obtain ⟨⟨_, creates⟩, whole, found, distinct, removed, journals⟩ := id holds
  cases label with
  | startJob path now =>
      simp only [step] at stepped
      split at stepped
      · cases stepped
        refine ⟨⟨by simp, creates⟩, whole, found_more holds (fun _ => id) ?_, List.nodup_nil,
          by simp, journals⟩
        intro other needed
        simp only [mem_needed, Walk.listed, List.not_mem_nil, false_or] at needed
        exact .inl (mem_needed.mpr (.inr needed))
      · rename_i idle panic failed
        simp [Undisturbed, failed, Except.isOk, Except.toBool] at undisturbed
      · contradiction
  | list names =>
      simp only [step] at stepped
      split at stepped
      · rename_i walking
        split at stepped
        · rename_i allowed
          cases stepped
          obtain ⟨nodup, exist⟩ := allowed
          refine ⟨⟨by simp, creates⟩, whole, found_more holds (fun _ => id) ?_, nodup, by simp,
            journals⟩
          intro other needed
          simp only [mem_needed, Walk.listed, List.mem_append] at needed
          rcases needed with (listed | listed) | needed
          · exact .inl (mem_needed.mpr (.inl (by rw [walking]; exact listed)))
          · exact .inr (exist other listed)
          · exact .inl (mem_needed.mpr (.inr needed))
        · contradiction
      · contradiction
  | inspect =>
      simp only [step] at stepped
      split at stepped
      · rename_i cutoff path rest walking
        rw [walking] at distinct
        obtain ⟨fresh, distinct⟩ := List.nodup_cons.mp distinct
        have present : path ∈ before.files :=
          found path (mem_needed.mpr (.inl (by rw [walking]; exact List.mem_cons_self)))
        have later : ∀ state : State, state.walk.listed = rest →
            state.creation = before.creation → state.journals = before.journals →
            ∀ other ∈ state.needed, other ∈ before.needed ∨ other ∈ state.files := by
          intro state listed sameCreation sameJournals other needed
          rw [mem_needed, listed, sameCreation, sameJournals] at needed
          refine .inl (mem_needed.mpr ?_)
          rw [walking]
          exact needed.imp (List.mem_cons_of_mem _) id
        split at stepped
        · rename_i vanished
          exact absurd present (Finmap.lookup_eq_none.mp vanished)
        · split at stepped
          · cases stepped
            refine ⟨⟨by simp, creates⟩, whole, found_more holds (fun _ => id) (later _ rfl rfl rfl),
              distinct, ?_, journals⟩
            intro _ _ _ same
            cases same
            exact fresh
          · cases stepped
            exact ⟨⟨by simp, creates⟩, whole, found_more holds (fun _ => id) (later _ rfl rfl rfl),
              distinct, by simp, journals⟩
      · contradiction
  | removeOld =>
      simp only [step] at stepped
      split at stepped
      · rename_i cutoff path rest walking
        cases stepped
        have unlisted := removed cutoff path rest walking
        rw [walking] at distinct
        simp only [Undisturbed, walking, List.mem_append, not_or, Option.mem_toList] at undisturbed
        refine ⟨⟨by simp, creates⟩, whole, found_erase holds rfl ?_ ?_, distinct, by simp, journals⟩
        · intro other needed
          rw [mem_needed] at needed ⊢
          rw [walking]
          exact needed
        · rw [mem_needed]
          exact not_or.mpr ⟨unlisted, not_or.mpr undisturbed⟩
      · contradiction
  | endWalk =>
      simp only [step] at stepped
      split at stepped
      · cases stepped
        refine ⟨⟨by simp, creates⟩, whole, found_more holds (fun _ => id) ?_, List.nodup_nil,
          by simp, journals⟩
        intro other needed
        simp only [mem_needed, Walk.listed, List.not_mem_nil, false_or] at needed
        exact .inl (mem_needed.mpr (.inr needed))
      · contradiction
  | _ => exact walks.elim

theorem storage_present {label : Step} (holds : Present before)
    (undisturbed : Undisturbed profile backupTtl before label) (stores : ¬label.OfWalk)
    (stepped : step sqlite profile backupTtl before label = some next) : Present next := by
  obtain ⟨⟨walks, _⟩, whole, found, distinct, removed, journals⟩ := id holds
  cases label with
  | takeBackup now =>
      simp only [step] at stepped
      split at stepped
      · rename_i path rest idle queued
        cases stepped
        refine ⟨⟨walks, by simp⟩, whole, found_more holds (fun _ => mem_touch.mpr ∘ .inr) ?_,
          distinct, removed, journals⟩
        intro other needed
        rcases mem_needed.mp needed with listed | created | journal
        · exact .inl (mem_needed.mpr (.inl listed))
        · cases created
          exact .inr (mem_touch.mpr (.inl rfl))
        · exact .inl (mem_needed.mpr (.inr (.inr journal)))
      · contradiction
  | openJournal path now =>
      simp only [step] at stepped
      split at stepped
      · rename_i opened
        cases stepped
        refine ⟨holds.alive, whole, found_more holds (fun _ => mem_touch.mpr ∘ .inr) ?_,
          distinct, removed, List.nodup_cons.mpr ⟨opened.2, journals⟩⟩
        intro other needed
        rcases mem_needed.mp needed with listed | created | journal
        · exact .inl (mem_needed.mpr (.inl listed))
        · exact .inl (mem_needed.mpr (.inr (.inl created)))
        · rcases List.mem_cons.mp journal with rfl | journal
          · exact .inr (mem_touch.mpr (.inl rfl))
          · exact .inl (mem_needed.mpr (.inr (.inr journal)))
      · contradiction
  | closeJournal path =>
      simp only [step] at stepped
      split at stepped
      · rename_i kept
        rw [if_pos (found path (mem_needed.mpr (.inr (.inr kept))))] at stepped
        cases stepped
        refine ⟨holds.alive, whole, found_erase holds rfl ?_ ?_, distinct, removed,
          journals.erase path⟩
        · intro other needed
          rw [mem_needed] at needed ⊢
          exact needed.imp_right (Or.imp_right List.mem_of_mem_erase)
        · simp only [Undisturbed, List.mem_append, not_or, Option.mem_toList] at undisturbed
          rw [mem_needed]
          exact not_or.mpr ⟨undisturbed.1, not_or.mpr ⟨undisturbed.2, journals.not_mem_erase⟩⟩
      · contradiction
  | sqliteFails =>
      have works : ¬(before.broken = true ∨ before.copyVanished) := by
        rw [whole]
        exact not_or.mpr ⟨Bool.false_ne_true, not_copyVanished holds⟩
      simp only [step, if_neg works] at stepped
      split at stepped <;> contradiction
  | copied =>
      simp only [step] at stepped
      split at stepped
      · rename_i path copying
        cases stepped
        refine ⟨⟨walks, by simp⟩, whole, found_more holds (fun _ => id) ?_, distinct, removed,
          journals⟩
        intro other needed
        rw [mem_needed] at needed
        exact .inl (mem_needed.mpr (by rw [copying]; exact needed))
      · contradiction
  | readBack =>
      simp only [step] at stepped
      split at stepped
      · rename_i path reading
        have present : path ∈ before.files :=
          found path (mem_needed.mpr (.inr (.inl (by rw [reading]; rfl))))
        rw [if_pos present] at stepped
        cases stepped
        refine ⟨⟨walks, by simp⟩, whole, found_more holds (fun _ => id) ?_, distinct, removed,
          journals⟩
        intro other needed
        rw [mem_needed] at needed
        exact .inl (mem_needed.mpr (by rw [reading]; exact needed))
      · contradiction
  | writeCompressed now =>
      simp only [step] at stepped
      split at stepped
      · rename_i path writing
        cases stepped
        refine ⟨⟨walks, by simp⟩, whole, found_more holds (fun _ => mem_touch.mpr ∘ .inr) ?_,
          distinct, removed, journals⟩
        intro other needed
        rw [mem_needed] at needed
        exact .inl (mem_needed.mpr (by rw [writing]; exact needed))
      · contradiction
  | removeCopy =>
      simp only [step] at stepped
      split at stepped
      · rename_i path removing
        have present : path ∈ before.files :=
          found path (mem_needed.mpr (.inr (.inl (by rw [removing]; rfl))))
        rw [if_pos present] at stepped
        cases stepped
        simp only [Undisturbed, removing, List.mem_append, not_or] at undisturbed
        refine ⟨⟨walks, by simp⟩, whole, found_erase holds rfl ?_ ?_, distinct, removed, journals⟩
        · intro other needed
          rw [mem_needed] at needed ⊢
          exact needed.imp_right (Or.imp_left nofun)
        · rw [mem_needed]
          exact not_or.mpr ⟨undisturbed.1, not_or.mpr ⟨nofun, undisturbed.2⟩⟩
      · contradiction
  | startJob | list | inspect | removeOld | endWalk => exact absurd trivial stores

theorem step_present {label : Step} (holds : Present before)
    (undisturbed : Undisturbed profile backupTtl before label)
    (stepped : step sqlite profile backupTtl before label = some next) : Present next := by
  by_cases walks : label.OfWalk
  · exact walk_present holds undisturbed walks stepped
  · exact storage_present holds undisturbed walks stepped

end Steps

theorem undisturbed_run_never_panics (sqlite : SqliteFiles) (profile : Profile)
    (backupTtl : Int32) (files : HashMap PathBuf SystemTime) (labels : List Step) (state : State)
    (undisturbed : (machine sqlite profile backupTtl files).StepsMeet
      (Undisturbed profile backupTtl) (machine sqlite profile backupTtl files).start labels)
    (executed : (machine sqlite profile backupTtl files).run labels = some state) :
    NeitherPanics state := by
  have initial : Present (machine sqlite profile backupTtl files).start :=
    ⟨⟨by simp [machine], by simp [machine]⟩, rfl, by simp [machine, mem_needed, Walk.listed,
      Creation.file?], List.nodup_nil, by simp [machine], List.nodup_nil⟩
  have present : Present state := Machine.invariant_run step_present initial undisturbed executed
  exact present.alive

namespace Sample

def copy : PathBuf := PathBuf.new "backup/gw:2022-04-01T10:00:00+02:00.db"

def sqlite : SqliteFiles := ⟨PathBuf.new "testing/db/data.db", fun database => [journalPath database]⟩

def start : SystemTime := .unixEpoch

def makeCopy : List Step :=
  [.openJournal (journalPath copy) start, .closeJournal (journalPath copy), .copied]

def compressCopy : List Step := [.readBack, .writeCompressed start, .removeCopy]

end Sample

theorem undisturbed_backup :
    ∃ state, (machine Sample.sqlite .release 1 ∅).run
        ([.startJob Sample.copy Sample.start, .endWalk, .takeBackup Sample.start] ++
          Sample.makeCopy ++ Sample.compressCopy) = some state ∧
      NeitherPanics state := by
  obtain ⟨state, executed⟩ : ∃ state, (machine Sample.sqlite .release 1 ∅).run
      ([.startJob Sample.copy Sample.start, .endWalk, .takeBackup Sample.start] ++
        Sample.makeCopy ++ Sample.compressCopy) = some state :=
    ⟨_, rfl⟩
  exact ⟨state, executed, undisturbed_run_never_panics Sample.sqlite .release 1 ∅ _ state
    (by decide +kernel) executed⟩

/-- The walk lists the `.db` file and inspects it after the storage thread has
compressed and removed it: the unwrapped metadata call panics. -/
theorem cleanup_meets_vanished_backup :
    ∃ state, (machine Sample.sqlite .release 1 ∅).run
        ([.startJob Sample.copy Sample.start, .takeBackup Sample.start, .list [Sample.copy]] ++
          Sample.makeCopy ++ Sample.compressCopy ++ [.inspect]) = some state ∧
      ¬NeitherPanics state :=
  ⟨_, rfl, fun alive => alive.1 rfl⟩

/-- The walk need not even meet the backup: listing SQLite's journal while the copy is
written and inspecting it after the copy is complete is enough. -/
theorem cleanup_meets_vanished_journal :
    ∃ state, (machine Sample.sqlite .release 1 ∅).run
        [.startJob Sample.copy Sample.start, .takeBackup Sample.start,
          .openJournal (journalPath Sample.copy) Sample.start, .list [journalPath Sample.copy],
          .closeJournal (journalPath Sample.copy), .inspect] = some state ∧
      ¬NeitherPanics state :=
  ⟨_, rfl, fun alive => alive.1 rfl⟩

end BackupRace

end StsGateway
