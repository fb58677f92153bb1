import Switchboard.Settings.File
import Switchboard.Proofs.Json.Pretty
import Switchboard.Proofs.Record.Reads

/-!
# The settings in use and the file

An opened file has its settings twice: those in use, which answer every call, and the text on the disk. What is written
reads back (`Disk.parse_render`), and writing either puts the whole of the changed settings there or leaves what is
there (`Disk.write_cases`). So a call that succeeds changes both alike and one that fails changes neither
(`outcome_access`), and whatever calls come, opening the file anew gives the settings in use (`faithful_run`).
-/

namespace Switchboard.Settings

namespace Disk

/-- Settings that are written read back, whatever characters their keys and values have. -/
theorem parse_render (data : KeyMap String) : parse (render data) = .ok data := by
  rw [parse, render, Json.read?_pretty (Json.Plain.ofTexts 0 data) (by decide)]
  simp only [Record.map_ofTexts]

/-- Making the folder leaves the file, and what is read from it. -/
theorem withFolder_keeps (d : Disk) : d.withFolder.load = d.load ∧ d.withFolder.text? = d.text? := by
  cases d <;> exact ⟨rfl, rfl⟩

/-- Where there is no file there are no settings to be opened. -/
theorem eq_empty_of_load {d : Disk} {data : KeyMap String} (none : d.text? = none) (opened : d.load = .ok data) :
    data = .empty := by
  cases d with
  | absent =>
    cases opened
    rfl
  | blocked => cases opened
  | folder entry =>
    cases entry with
    | absent =>
      cases opened
      rfl
    | file text => cases none
    | folder => cases opened

end Disk

/-- Why a step of writing fails, if one does. -/
def Obstacles.message? (o : Obstacles) : Option String := o.folder.or (o.draft.or o.swap)

/-- Writing succeeds if nothing is in the way. Otherwise it leaves the file, and what is read from it. -/
theorem Disk.write_cases (d : Disk) (obstacles : Obstacles) (data : KeyMap String) :
    (obstacles.message? = none ∧ d.write obstacles data = (.put (render data), .ok ())) ∨
    ∃ message disk, obstacles.message? = some message ∧ d.write obstacles data = (disk, .error message) ∧
      disk.load = d.load ∧ disk.text? = d.text? := by
  obtain ⟨folder, draft, swap⟩ := obstacles
  cases folder with
  | some message => exact Or.inr ⟨message, d, rfl, rfl, rfl, rfl⟩
  | none =>
    cases draft with
    | some message => exact Or.inr ⟨message, _, rfl, rfl, d.withFolder_keeps⟩
    | none =>
      cases swap with
      | some message => exact Or.inr ⟨message, _, rfl, rfl, d.withFolder_keeps⟩
      | none => exact Or.inl ⟨rfl, rfl⟩

namespace SettingsFile

/-! ## One call -/

/-- The outcome of a call on the settings: it succeeded, and did what it is for. -/
structure Succeeds (f : SettingsFile) (a : Access) (outcome : SettingsFile × Except String Response) : Prop where
  response : outcome.2 = .ok (a.response f.data)
  data : outcome.1.data = a.update f.data
  /-- What is on the disk is as before, and so are the settings, or it is the text of the settings. -/
  disk : outcome.1 = f ∨ outcome.1.disk = .put (Disk.render outcome.1.data)

/-- The outcome of a call on the settings: it failed, and changed neither the settings nor the file. -/
structure Fails (f : SettingsFile) (message : String) (outcome : SettingsFile × Except String Response) : Prop where
  response : outcome.2 = .error message
  data : outcome.1.data = f.data
  load : outcome.1.disk.load = f.disk.load
  text : outcome.1.disk.text? = f.disk.text?

variable (f : SettingsFile) (obstacles : Obstacles)

/-- A call succeeds, or it was kept from writing and fails. -/
def Outcome (a : Access) (outcome : SettingsFile × Except String Response) : Prop :=
  f.Succeeds a outcome ∨ ∃ message, obstacles.message? = some message ∧ f.Fails message outcome

/-- A call that has to write. -/
theorem outcome_commit {a : Access} (done : a.response f.data = .done) :
    f.Outcome obstacles a (f.commit obstacles (a.update f.data)) := by
  rcases f.disk.write_cases obstacles (a.update f.data) with ⟨-, written⟩ | ⟨message, disk, stopped, failed, load, text⟩
  · refine Or.inl ?_
    simp only [commit, written]
    exact ⟨congrArg Except.ok done.symm, rfl, Or.inr rfl⟩
  · refine Or.inr ⟨message, stopped, ?_⟩
    simp only [commit, failed]
    exact ⟨rfl, rfl, load, text⟩

theorem outcome_access (a : Access) : f.Outcome obstacles a (f.access obstacles a) := by
  cases a with
  | get key | list => exact Or.inl ⟨rfl, rfl, Or.inl rfl⟩
  | set key value => exact f.outcome_commit obstacles rfl
  | delete key =>
    cases present : f.data.contains key with
    | true =>
      rw [access, if_pos present]
      exact f.outcome_commit obstacles rfl
    | false =>
      rw [access, if_neg (Bool.eq_false_iff.mp present)]
      exact Or.inl ⟨rfl, (KeyMap.erase_of_absent present).symm, Or.inl rfl⟩

/-! ## Calls one after the other -/

/-- The file after calls, each with what is in its way. -/
def run (f : SettingsFile) (calls : List (Access × Obstacles)) : SettingsFile :=
  calls.foldl (fun f call => (f.access call.2 call.1).1) f

/-- Opened anew, the file gives the settings in use. -/
def Mirrored (f : SettingsFile) : Prop := f.disk.load = .ok f.data

variable {f}

theorem Mirrored.access (h : f.Mirrored) (a : Access) : (f.access obstacles a).1.Mirrored := by
  rcases f.outcome_access obstacles a with done | ⟨message, -, failed⟩
  · rcases done.disk with same | written
    · rw [same]
      exact h
    · rw [Mirrored, written]
      exact Disk.parse_render _
  · rw [Mirrored, failed.load, failed.data]
    exact h

theorem Mirrored.run (h : f.Mirrored) (calls : List (Access × Obstacles)) : (f.run calls).Mirrored := by
  induction calls generalizing f with
  | nil => exact h
  | cons call calls ih => exact ih (h.access call.2 call.1)

/-- What an opened file promises. -/
structure Faithful (f : SettingsFile) : Prop where
  /-- Opened anew, it gives the settings in use. -/
  mirrored : f.disk.load = .ok f.data
  /-- While there is no file, there are no settings. -/
  missing : f.disk.text? = none → f.data = .empty
  /-- A call with nothing in its way succeeds. -/
  succeeds : ∀ a, ∃ response, (f.access {} a).2 = .ok response
  /-- A call that succeeds answers from the settings in use, and they are then as the call has them. -/
  success : ∀ obstacles a response, (f.access obstacles a).2 = .ok response →
    response = a.response f.data ∧ (f.access obstacles a).1.data = a.update f.data
  /-- A call that fails was kept from writing, and leaves the settings in use and the file as they were. -/
  failure : ∀ obstacles a message, (f.access obstacles a).2 = .error message →
    obstacles.message? = some message ∧ (f.access obstacles a).1.data = f.data ∧
      (f.access obstacles a).1.disk.text? = f.disk.text?
  /-- Looking a key up always succeeds and changes nothing. -/
  get : ∀ obstacles key, f.access obstacles (.get key) = (f, .ok (.value (f.data.get? key)))
  /-- So does listing, which gives every key that has a value once, in order. -/
  list : ∀ obstacles, ∃ entries, f.access obstacles .list = (f, .ok (.entries entries)) ∧
    (entries.Pairwise fun e e' => e.1 < e'.1) ∧ ∀ key value, (key, value) ∈ entries ↔ f.data.get? key = some value

theorem Mirrored.faithful (h : f.Mirrored) : f.Faithful where
  mirrored := h
  missing none := Disk.eq_empty_of_load none h
  succeeds a := by
    rcases f.outcome_access {} a with done | ⟨message, stopped, -⟩
    · exact ⟨_, done.response⟩
    · cases stopped
  success obstacles a response answered := by
    rcases f.outcome_access obstacles a with done | ⟨message, -, failed⟩
    · cases done.response.symm.trans answered
      exact ⟨rfl, done.data⟩
    · cases failed.response.symm.trans answered
  failure obstacles a message answered := by
    rcases f.outcome_access obstacles a with done | ⟨message, stopped, failed⟩
    · cases done.response.symm.trans answered
    · cases failed.response.symm.trans answered
      exact ⟨stopped, failed.data, failed.text⟩
  get _ _ := rfl
  list _ := ⟨f.data.entries, rfl, f.data.ascending, fun key value => (f.data.get?_eq_some_iff key value).symm⟩

/-- **The file mirrors the settings in use.** Of a file that could be opened, whatever calls come with whatever in
their way: opened anew it gives the settings in use, calls that fail change neither, and those that succeed answer from
the settings in use. -/
theorem faithful_run {disk : Disk} {data : KeyMap String} (opened : disk.load = .ok data)
    (calls : List (Access × Obstacles)) : (run ⟨data, disk⟩ calls).Faithful :=
  (Mirrored.run (f := ⟨data, disk⟩) opened calls).faithful

/-- A file with one setting. -/
def lit : Disk := .put "\x7b\"ui.theme\": \"light\"\x7d"

/-- A draft that cannot be written, a text with a quotation mark, a backslash and a line break that is stored, and one
that cannot take its place. -/
def troubled : List (Access × Obstacles) := [
  (.set "ui.theme" "dark", { draft := some "No space left on device (os error 28)" }),
  (.set "note" "a \"b\" \\ \n", {}),
  (.set "note" "c", { swap := some FileMessage.isFolder })]

theorem troubled_faithful :
    (run ⟨KeyMap.empty.insert "ui.theme" "light", lit⟩ troubled).Faithful ∧
    (run ⟨KeyMap.empty.insert "ui.theme" "light", lit⟩ troubled).data =
      (KeyMap.empty.insert "ui.theme" "light").insert "note" "a \"b\" \\ \n" := by
  have opened : lit.load = .ok (KeyMap.empty.insert "ui.theme" "light") := by rfl
  exact ⟨faithful_run opened troubled, by decide⟩

end SettingsFile

end Switchboard.Settings
