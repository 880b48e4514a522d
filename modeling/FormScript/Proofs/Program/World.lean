import FormScript.Program.Execute
import FormScript.Program.World
import FormScript.Proofs.Store.Fallback

/-!
# Operations in a world

What a world does with files, its files do. Everything that the program asks before it saves leaves the
world as it is.
-/

namespace FormScript

namespace World

variable {α β : Type}

/-- What an operation answers in a world, and the world that it leaves. -/
def run (w : World) (m : StateM World α) : α × World := StateT.run m w

/-- What an operation answers in a world. -/
def answer (w : World) (m : StateM World α) : α := (w.run m).1

/-- What a computation returns in a world is its answer there. -/
theorem fst_run (w : World) (m : StateM World α) : (StateT.run m w).1 = w.answer m := rfl

/-- Operations are carried out one after the other. -/
theorem run_bind (w : World) (m : StateM World α) (next : α → StateM World β) :
    w.run (m >>= next) = (w.run m).2.run (next (w.answer m)) := rfl

/-- After an operation the next one is carried out in the world that it left. -/
theorem run_bind_eq_of_run {w w' : World} {m : StateM World α} {a : α} (h : w.run m = (a, w'))
    (next : α → StateM World β) : w.run (m >>= next) = w'.run (next a) := by
  rw [run_bind, answer, h]

/-- The operation only asks: it leaves every world as it is. -/
def OnlyAsks (m : StateM World α) : Prop := ∀ w : World, (w.run m).2 = w

/-- An operation that comes to its end with a value only asks. -/
theorem onlyAsks_pure (a : α) : OnlyAsks (pure a) := fun _ => rfl

/-- After an operation that only asks the next one is carried out in the same world. -/
theorem OnlyAsks.run_bind {m : StateM World α} (h : OnlyAsks m) (w : World)
    (next : α → StateM World β) : w.run (m >>= next) = w.run (next (w.answer m)) := by
  rw [World.run_bind, h w]

/-- What is answered after an operation that only asks is answered in the same world. -/
theorem OnlyAsks.answer_bind {m : StateM World α} (h : OnlyAsks m) (w : World)
    (next : α → StateM World β) : w.answer (m >>= next) = w.answer (next (w.answer m)) :=
  congrArg Prod.fst (h.run_bind w next)

/-- Operations that only ask do so one after the other. -/
theorem OnlyAsks.bind {m : StateM World α} {next : α → StateM World β} (h : OnlyAsks m)
    (hnext : ∀ a, OnlyAsks (next a)) : OnlyAsks (m >>= next) := by
  intro w
  rw [h.run_bind]
  exact hnext _ w

/-! ## The host -/

/-- To ask for the time changes nothing. -/
theorem onlyAsks_now : OnlyAsks (MonadHost.now : StateM World Moment) := fun _ => rfl

/-- To look at the clock changes nothing. -/
theorem onlyAsks_milliseconds : OnlyAsks (MonadHost.milliseconds : StateM World Nat) := fun _ => rfl

/-- To ask for the terminal changes nothing. -/
theorem onlyAsks_isTerminal : OnlyAsks (MonadHost.isTerminal : StateM World Bool) := fun _ => rfl

/-- A world tells its time. -/
@[simp] theorem answer_now (w : World) : w.answer MonadHost.now = w.time := rfl

/-- A world tells whether it has a terminal. -/
@[simp] theorem answer_isTerminal (w : World) : w.answer MonadHost.isTerminal = w.terminal := rfl

/-! ## Files -/

/-- An operation on the files of a world changes nothing else. -/
theorem run_onFiles (w : World) (m : StateM FileSystem α) :
    w.run (onFiles m) = ((w.files.run m).1, { w with files := (w.files.run m).2 }) := rfl

private theorem onFiles_bind (m : StateM FileSystem α) (next : α → StateM FileSystem β) :
    onFiles (m >>= next) = onFiles m >>= fun a => onFiles (next a) := rfl

/-- An operation that leaves all files as they are only asks. -/
theorem onlyAsks_onFiles {m : StateM FileSystem α} (h : ∀ fs : FileSystem, (fs.run m).2 = fs) :
    OnlyAsks (onFiles m) := by
  intro w
  rw [run_onFiles, h]

private theorem readText_eq (path : Path) :
    (MonadFiles.readText path : StateM World _) = onFiles (MonadFiles.readText path) := rfl

private theorem read_eq (path : Path) :
    (Workbook.read path : StateM World _) = onFiles (Workbook.read path) := by
  rw [Workbook.read, Workbook.read, onFiles_bind, readText_eq]
  congr 1
  funext answer
  cases answer with
  | error fault => rfl
  | ok text =>
    simp only
    cases Workbook.ofText? text <;> rfl

/-- A sheet of a world is one of its files. -/
theorem load_eq (path : Path) (name : String) :
    (Workbook.load path name : StateM World _) = onFiles (Workbook.load path name) := by
  rw [Workbook.load, Workbook.load, onFiles_bind, read_eq]
  congr 1
  funext answer
  cases answer <;> rfl

/-- A table of titles of a world is one of its files. -/
theorem loadTitles_eq (path : Path) (name : String) :
    (TitleTable.load path name : StateM World _) = onFiles (TitleTable.load path name) := by
  rw [TitleTable.load, TitleTable.load, onFiles_bind, load_eq]
  congr 1
  funext answer
  cases answer <;> rfl

private theorem saveAs_eq (source target : Path) (s : Sheet) :
    (Workbook.saveAs source target s : StateM World _) = onFiles (Workbook.saveAs source target s) := by
  have hsource : (Workbook.forSaving source : StateM World _) = onFiles (Workbook.forSaving source) := by
    rw [Workbook.forSaving, Workbook.forSaving, onFiles_bind, read_eq]
    congr 1
    funext answer
    cases answer with
    | ok w => rfl
    | error fault => cases fault <;> rfl
  rw [Workbook.saveAs, Workbook.saveAs, onFiles_bind, hsource]
  congr 1
  funext answer
  cases answer with
  | error fault => rfl
  | ok w =>
    simp only
    rw [onFiles_bind]
    congr 1
    funext written
    cases written <;> rfl

private theorem tryPlaces_eq {ε : Type} (attempt : Path → StateM FileSystem (Except ε Unit))
    (last : ε) (places : List Path) :
    Fallback.tryPlaces (fun place => onFiles (attempt place)) last places =
      onFiles (Fallback.tryPlaces attempt last places) := by
  induction places generalizing last with
  | nil => rfl
  | cons place rest ih =>
    rw [Fallback.tryPlaces, Fallback.tryPlaces, onFiles_bind]
    congr 1
    funext answer
    cases answer with
    | ok _ => rfl
    | error fault => exact ih fault

private theorem save_eq {ε : Type} (isRefusal : ε → Bool)
    (attempt : Path → StateM FileSystem (Except ε Unit)) (temporary : Path) (time : Moment)
    (path : Path) :
    Fallback.save isRefusal (fun place => onFiles (attempt place)) temporary time path =
      onFiles (Fallback.save isRefusal attempt temporary time path) := by
  rw [Fallback.save, Fallback.save, onFiles_bind]
  congr 1
  funext answer
  cases answer with
  | ok _ => rfl
  | error fault =>
    simp only
    split
    · rw [tryPlaces_eq, onFiles_bind]
      rfl
    · rfl

/-- Saving a sheet with fallbacks in a world is saving it in its files. -/
theorem saveSheet_eq (s : Sheet) (temporary : Path) (time : Moment) (path : Path) :
    (Fallback.saveSheet s temporary time path : StateM World _) =
      onFiles (Fallback.saveSheet s temporary time path) := by
  have hattempt : (fun target => (Workbook.saveAs path target s : StateM World _)) =
      fun target => onFiles (Workbook.saveAs path target s) := funext fun target => saveAs_eq path target s
  rw [Fallback.saveSheet, Fallback.saveSheet, Fallback.saveDocument, Fallback.saveDocument, hattempt]
  exact save_eq WorkbookFault.isRefusal (fun target => Workbook.saveAs path target s) temporary time path

end World

end FormScript
