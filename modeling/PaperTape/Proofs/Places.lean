import PaperTape.FileSystem

namespace PaperTape.FileSystem

theorem lookup_filter_ne {place other : Place} (different : other ≠ place) (entries : List (Place × Entry)) :
    (entries.filter fun entry => entry.1 != place).lookup other = entries.lookup other := by
  induction entries with
  | nil => rfl
  | cons entry entries ih =>
    obtain ⟨named, held⟩ := entry
    by_cases same : named = place
    · have apart : (other == named) = false := by
        rw [same]
        exact beq_false_of_ne different
      rw [List.filter_cons_of_neg (by simp [same]), ih, List.lookup_cons, apart]
    · rw [List.filter_cons_of_pos (by simp [same]), List.lookup_cons, List.lookup_cons, ih]

theorem find?_put_of_ne (files : FileSystem) {place other : Place} (different : other ≠ place) (entry : Entry) :
    (files.put place entry).find? other = files.find? other := by
  have apart : (other == place) = false := beq_false_of_ne different
  simp only [find?, put, List.lookup_cons, apart, lookup_filter_ne different]

theorem find?_put_self {files : FileSystem} {place : Place} (changeable : files.find? place ≠ some .directory)
    (entry : Entry) : (files.put place entry).find? place = some entry := by
  have below : ¬ place.isPrefixOf files.working := fun above => changeable (if_pos above)
  simp only [find?, put, below, List.lookup_cons, beq_self_eq_true]
  rfl

/-- A file system that differs from another at one place only, where no directory is. -/
structure Differs (files : FileSystem) (place : Place) (after : FileSystem) : Prop where
  changeable : files.find? place ≠ some .directory
  working : after.working = files.working
  others : ∀ other, other ≠ place → after.find? other = files.find? other

theorem enter_ok {files : FileSystem} {place next : Place} {name : String}
    (entered : files.enter place name = .ok next) : files.find? place = some .directory := by
  unfold enter at entered
  split at entered
  · cases entered
  · assumption
  · cases entered

namespace Differs

variable {files after : FileSystem} {place : Place}

theorem refl (changeable : files.find? place ≠ some .directory) : Differs files place files :=
  ⟨changeable, rfl, fun _ _ => rfl⟩

theorem put (changeable : files.find? place ≠ some .directory) (entry : Entry) :
    Differs files place (files.put place entry) :=
  ⟨changeable, rfl, fun _ different => find?_put_of_ne files different entry⟩

theorem directory (differs : Differs files place after) {other : Place} (found : files.find? other = some .directory) :
    after.find? other = some .directory := by
  have different : other ≠ place := by
    rintro rfl
    exact differs.changeable found
  rw [differs.others other different, found]

theorem enter (differs : Differs files place after) {middle next : Place} {name : String}
    (entered : files.enter middle name = .ok next) : after.enter middle name = .ok next := by
  have found := enter_ok entered
  simp only [FileSystem.enter, found] at entered
  simp only [FileSystem.enter, differs.directory found, entered]

theorem enters (differs : Differs files place after) {names : List String} {first last : Place}
    (entered : names.foldlM files.enter first = .ok last) : names.foldlM after.enter first = .ok last := by
  induction names generalizing first with
  | nil => exact entered
  | cons name names ih =>
    simp only [List.foldlM_cons, Bind.bind, Except.bind] at entered ⊢
    cases stepped : files.enter first name with
    | error error =>
      rw [stepped] at entered
      cases entered
    | ok next =>
      rw [stepped] at entered
      rw [differs.enter stepped]
      exact ih entered

theorem resolve (differs : Differs files place after) {path : String} {last : Place}
    (leads : files.resolve path = .ok last) : after.resolve path = .ok last := by
  have begins : after.start path = files.start path := by simp only [start, differs.working]
  unfold FileSystem.resolve walk at leads ⊢
  rw [begins]
  split at leads
  · cases leads
  · split at leads
    · cases leads
    · split at leads
      · cases leads
      · simp only [*, if_false, Bool.false_eq_true]
        exact differs.enters leads

end Differs

theorem create_ok {files : FileSystem} {path : String} {place : Place} (created : files.create path = .ok place) :
    endsInSlash path = false ∧ files.resolve path = .ok place ∧ files.find? place ≠ some .directory := by
  unfold create at created
  simp only [Bind.bind, Except.bind] at created
  split at created
  · split at created
    · cases created
    · split at created <;> cases created
  · rename_i unslashed
    split at created
    · cases created
    · rename_i last leads
      split at created
      · cases created
      · rename_i other
        cases created
        exact ⟨eq_false_of_ne_true unslashed, leads, other⟩

/-- A path leads to a file with the given bytes, and nothing else has changed. An entry that drops what it is given
    takes them without a trace. -/
inductive Written (files : FileSystem) (path : String) (bytes : List UInt8) (after : FileSystem) : Prop
  | held {place : Place} : files.resolve path = .ok place → files.Differs place after →
      after.openEntry path = .ok (.file bytes) → Written files path bytes after
  | dropped : files.openEntry path = .ok .null → after = files → Written files path bytes after

theorem Written.contents {files after : FileSystem} {path : String} {bytes : List UInt8}
    (written : Written files path bytes after) (kept : files.openEntry path ≠ .ok .null) :
    after.contents? path = some bytes := by
  cases written with
  | held _ _ opened => simp only [contents?, opened]
  | dropped null _ => exact absurd null kept

theorem openEntry_unslashed {files : FileSystem} {path : String} {place : Place} {entry : Entry}
    (unslashed : endsInSlash path = false) (leads : files.resolve path = .ok place) :
    files.openEntry path = .ok entry ↔ files.find? place = some entry := by
  simp only [openEntry, leads, unslashed, Bind.bind, Except.bind, Pure.pure, Except.pure, Bool.false_eq_true, if_false]
  cases files.find? place with
  | none => simp
  | some found => simp

theorem written_store {files : FileSystem} {path : String} {place : Place} (created : files.create path = .ok place)
    (roomy : files.find? place ≠ some .full) (sink : Sink) :
    Written files path sink.held.toList (files.store place sink) := by
  obtain ⟨unslashed, leads, changeable⟩ := create_ok created
  have written : Written files path sink.held.toList (files.put place (.file sink.held.toList)) := by
    have differs := Differs.put changeable (.file sink.held.toList)
    exact .held leads differs ((openEntry_unslashed unslashed (differs.resolve leads)).mpr (find?_put_self changeable _))
  unfold store
  cases found : files.find? place with
  | none => exact written
  | some entry =>
    cases entry with
    | file bytes => exact written
    | directory => exact absurd found changeable
    | null => exact .dropped ((openEntry_unslashed unslashed leads).mpr found) rfl
    | full => exact absurd found roomy

end PaperTape.FileSystem
