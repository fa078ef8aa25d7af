/-
# NativeRecords.Proofs.Overriding -- which entry decides a setting

A setting may be given under its own name or inside the entry of its target, and settings are read
in one pass over the entries, each of which may give several settings or none. Both layouts, in any
order and with anything between them, come to one rule: of the entries that give a setting the last
one counts, and a setting that none gives has its default.
-/
import NativeRecords.Proofs.Outcome
import NativeRecords.Settings

namespace NativeRecords

/-! ## Settings one by one -/

/-- The settings, by what they decide. -/
inductive Setting where
  | kotlinPackage
  | kotlinImports
  | swiftImports
  | generationComment

namespace Setting

/-- The name of a setting as an entry of its own. -/
@[simp] def entryName : Setting → String
  | .kotlinPackage => "kotlin_package_name"
  | .kotlinImports => "kotlin_imports"
  | .swiftImports => "swift_imports"
  | .generationComment => "add_generation_comment"

/-- The target with which a setting may be given, and the name that it has there. -/
@[simp] def place? : Setting → Option (String × String)
  | .kotlinPackage => some ("kotlin", "packageName")
  | .kotlinImports => some ("kotlin", "imports")
  | .swiftImports => some ("swift", "imports")
  | .generationComment => none

/-- What becomes of a value that is given with a target: imports are made a list. -/
@[simp] def taken? (setting : Setting) (raw : Json) : Option Json :=
  match setting with
  | .kotlinImports | .swiftImports => raw.items?.map .arr
  | .kotlinPackage | .generationComment => some raw

/-- What settings say. -/
@[simp] def value (settings : Settings) : Setting → Json
  | .kotlinPackage => settings.kotlinPackage
  | .kotlinImports => settings.kotlinImports
  | .swiftImports => settings.swiftImports
  | .generationComment => settings.generationComment

/-- The field of a value, if it is an object that has it. -/
@[simp] def inside? (field : String) : Json → Option Json
  | .obj fields => Json.field? field fields
  | _ => none

/-- The part of an entry that is about a setting, if the entry is an object for its target. -/
def part? (setting : Setting) (entry : String × Json) : Option Json :=
  setting.place?.bind fun place => if entry.1 = place.1 then inside? place.2 entry.2 else none

/-- The value that an entry gives to a setting: all of it under the setting's own name, and a part
of it under the name of the target. -/
def given? (setting : Setting) (entry : String × Json) : Option Json :=
  if entry.1 = setting.entryName then some entry.2 else (setting.part? entry).bind setting.taken?

/-- What the last of the entries that give a setting gives to it. -/
def lastGiven? (setting : Setting) (entries : List (String × Json)) : Option Json :=
  entries.reverse.findSome? setting.given?

variable {setting : Setting} {entry : String × Json} {entries before after : List (String × Json)}

/-- An entry is not for a target, because of its name or because it is no object. -/
def NoTarget (entry : String × Json) : Prop :=
  entry.1 ∉ ["kotlin", "swift"] ∨ ∀ fields, entry.2 ≠ .obj fields

theorem part?_eq_none (noTarget : NoTarget entry) : setting.part? entry = none := by
  obtain ⟨name, value⟩ := entry
  rcases noTarget with unknown | plain
  · simp only [List.mem_cons, List.not_mem_nil, or_false, not_or] at unknown
    cases setting <;> simp [part?, unknown]
  · cases value with
    | obj fields => exact absurd rfl (plain fields)
    | _ => cases setting <;> simp [part?]

theorem given?_eq_none (unnamed : entry.1 ≠ setting.entryName) (noTarget : NoTarget entry) :
    setting.given? entry = none := by
  rw [given?, if_neg unnamed, part?_eq_none noTarget, Option.bind_none]

theorem noTarget_entryName (setting : Setting) (value : Json) :
    NoTarget (setting.entryName, value) := by
  have unlisted : setting.entryName ∉ ["kotlin", "swift"] := by
    cases setting <;> decide
  exact .inl unlisted

theorem lastGiven?_cons : setting.lastGiven? (entry :: entries)
    = (setting.lastGiven? entries).or (setting.given? entry) := by
  rw [lastGiven?, List.reverse_cons, List.findSome?_append, List.findSome?_singleton, lastGiven?]

theorem lastGiven?_append : setting.lastGiven? (before ++ after)
    = (setting.lastGiven? after).or (setting.lastGiven? before) := by
  simp only [lastGiven?, List.reverse_append, List.findSome?_append]

/-- An entry that does not give a setting might as well be missing. -/
theorem lastGiven?_of_none (h : setting.given? entry = none) :
    setting.lastGiven? (before ++ entry :: after) = setting.lastGiven? (before ++ after) := by
  rw [lastGiven?_append, lastGiven?_cons, h, Option.or_none, lastGiven?_append]

end Setting

/-- An entry can be read if its parts can be taken, as imports can if they have items. -/
def Readable (entry : String × Json) : Prop :=
  ∀ (setting : Setting) (raw : Json), setting.part? entry = some raw →
    (setting.taken? raw).isSome

theorem readable_iff {entry : String × Json} : Readable entry ↔
    (∀ raw, Setting.kotlinImports.part? entry = some raw → raw.items?.isSome) ∧
    ∀ raw, Setting.swiftImports.part? entry = some raw → raw.items?.isSome := by
  constructor
  · intro readable
    constructor
    · simpa using readable .kotlinImports
    · simpa using readable .swiftImports
  · rintro ⟨kotlin, swift⟩ setting raw part
    cases setting with
    | kotlinPackage => rfl
    | kotlinImports => simpa using kotlin raw part
    | swiftImports => simpa using swift raw part
    | generationComment => rfl

namespace Settings

variable {settings next : Settings} {entry : String × Json} {fields : List (String × Json)}

/-- The settings that say what they are wanted to. -/
def ofValues (values : Setting → Json) : Settings where
  kotlinPackage := values .kotlinPackage
  kotlinImports := values .kotlinImports
  swiftImports := values .swiftImports
  generationComment := values .generationComment

theorem value_ofValues (values : Setting → Json) (setting : Setting) :
    setting.value (ofValues values) = values setting := by
  cases setting <;> rfl

/-! ## One entry -/

/-- The settings with those changed that an entry gives, and no others. -/
def taking (settings : Settings) (entry : String × Json) : Settings :=
  ofValues fun setting => (setting.given? entry).getD (setting.value settings)

theorem taking_of_none (nothing : ∀ setting : Setting, setting.given? entry = none) :
    settings.taking entry = settings := by
  simp only [taking, nothing, Option.getD_none]
  rfl

theorem putKotlin_eq_ok_iff : settings.putKotlin fields = .ok next ↔
    Readable ("kotlin", .obj fields) ∧ settings.taking ("kotlin", .obj fields) = next := by
  unfold putKotlin
  cases package : Json.field? "packageName" fields <;>
    cases imports : Json.field? "imports" fields with
    | none =>
      simp [readable_iff, Setting.part?, Setting.given?, taking, ofValues, package, imports]
    | some raw =>
      cases items : raw.items? <;>
        simp [readable_iff, Setting.part?, Setting.given?, taking, ofValues, importList, Except.map,
          package, imports, items]

theorem putSwift_eq_ok_iff : settings.putSwift fields = .ok next ↔
    Readable ("swift", .obj fields) ∧ settings.taking ("swift", .obj fields) = next := by
  unfold putSwift
  cases imports : Json.field? "imports" fields with
  | none => simp [readable_iff, Setting.part?, Setting.given?, taking, ofValues, imports]
  | some raw =>
    cases items : raw.items? <;>
      simp [readable_iff, Setting.part?, Setting.given?, taking, ofValues, importList, Except.map,
        imports, items]

theorem ok_eq_ok_iff {changed : Settings} (noTarget : Setting.NoTarget entry)
    (changes : settings.taking entry = changed) :
    (Except.ok changed : Except Failure Settings) = .ok next ↔
      Readable entry ∧ settings.taking entry = next := by
  have readable : Readable entry := by
    intro setting raw part
    rw [Setting.part?_eq_none noTarget] at part
    contradiction
  rw [changes, Except.ok.injEq, and_iff_right readable]

/-- **What one entry does.** -/
theorem put_eq_ok_iff :
    settings.put entry = .ok next ↔ Readable entry ∧ settings.taking entry = next := by
  unfold put
  split
  · exact putKotlin_eq_ok_iff
  · exact putSwift_eq_ok_iff
  · exact ok_eq_ok_iff (Setting.noTarget_entryName .kotlinPackage _) rfl
  · exact ok_eq_ok_iff (Setting.noTarget_entryName .kotlinImports _) rfl
  · exact ok_eq_ok_iff (Setting.noTarget_entryName .swiftImports _) rfl
  · exact ok_eq_ok_iff (Setting.noTarget_entryName .generationComment _) rfl
  · rename_i noKotlin noSwift noPackage noKotlinImports noSwiftImports noComment
    obtain ⟨name, value⟩ := entry
    have noTarget : Setting.NoTarget (name, value) := by
      by_cases object : ∃ fields, value = .obj fields
      · obtain ⟨fields, rfl⟩ := object
        left
        simp only [List.mem_cons, List.not_mem_nil, or_false, not_or]
        constructor
        · rintro rfl
          exact noKotlin fields rfl
        · rintro rfl
          exact noSwift fields rfl
      · exact .inr fun fields same => object ⟨fields, same⟩
    have unnamed (setting : Setting) : name ≠ setting.entryName := by
      rintro rfl
      cases setting with
      | kotlinPackage => exact noPackage _ rfl
      | kotlinImports => exact noKotlinImports _ rfl
      | swiftImports => exact noSwiftImports _ rfl
      | generationComment => exact noComment _ rfl
    exact ok_eq_ok_iff noTarget (taking_of_none fun setting =>
      Setting.given?_eq_none (unnamed setting) noTarget)

/-! ## All entries in turn -/

/-- The settings after all entries, each setting from the last entry that gives it. -/
def takingAll (settings : Settings) (entries : List (String × Json)) : Settings :=
  ofValues fun setting => (setting.lastGiven? entries).getD (setting.value settings)

theorem takingAll_cons (settings : Settings) (entry : String × Json)
    (entries : List (String × Json)) :
    settings.takingAll (entry :: entries) = (settings.taking entry).takingAll entries := by
  unfold takingAll taking
  simp only [Setting.lastGiven?_cons, Option.getD_or, value_ofValues]

/-- **What a pass over the entries does.** -/
theorem foldlM_put_eq_ok_iff {entries : List (String × Json)} :
    entries.foldlM put settings = .ok next ↔
      (∀ entry ∈ entries, Readable entry) ∧ settings.takingAll entries = next := by
  induction entries generalizing settings with
  | nil =>
    have unchanged : settings.takingAll [] = settings := rfl
    simp [unchanged, pure, Except.pure]
  | cons entry entries ih =>
    simp only [List.foldlM_cons, bind_eq_ok_iff, put_eq_ok_iff, ih, takingAll_cons,
      List.forall_mem_cons]
    constructor
    · rintro ⟨_, ⟨readable, rfl⟩, others, rfl⟩
      exact ⟨⟨readable, others⟩, rfl⟩
    · rintro ⟨⟨readable, others⟩, rfl⟩
      exact ⟨_, ⟨readable, rfl⟩, others, rfl⟩

theorem ofJson_eq_ok_iff {entries : List (String × Json)} : ofJson (.obj entries) = .ok settings ↔
    (∀ entry ∈ entries, Readable entry) ∧ takingAll {} entries = settings :=
  foldlM_put_eq_ok_iff

theorem ofJson_toJson (settings : Settings) : ofJson settings.toJson = .ok settings := rfl

end Settings

/-! ## The law of overriding -/

/-- **The last entry wins.** Settings are read whenever the imports that are given with targets have
items. Then each setting is what the last entry that gives it says, under its own name or with its
target, or its default when no entry gives it. Entries that give no setting might as well be
missing, among them all those under other names and those for a target that are no objects. And the
settings are read again from what they are written as. -/
theorem last_entry_wins (entries : List (String × Json)) :
    ((∃ settings, Settings.ofJson (.obj entries) = .ok settings) ↔
      ∀ entry ∈ entries, Readable entry) ∧
    (∀ entry, (∀ setting : Setting, entry.1 ≠ setting.entryName) →
      entry.1 ∉ ["kotlin", "swift"] ∨ (∀ fields, entry.2 ≠ .obj fields) →
      ∀ setting : Setting, setting.given? entry = none) ∧
    ∀ settings, Settings.ofJson (.obj entries) = .ok settings →
      (∀ setting : Setting, setting.value settings
        = (setting.lastGiven? entries).getD (setting.value {})) ∧
      (∀ before entry after, entries = before ++ entry :: after →
        (∀ setting : Setting, setting.given? entry = none) →
        Settings.ofJson (.obj (before ++ after)) = .ok settings) ∧
      Settings.ofJson settings.toJson = .ok settings := by
  simp only [Settings.ofJson_eq_ok_iff]
  refine ⟨by simp, ?_, ?_⟩
  · intro entry unnamed noTarget setting
    exact Setting.given?_eq_none (unnamed setting) noTarget
  · rintro _ ⟨readable, rfl⟩
    refine ⟨Settings.value_ofValues _, ?_, Settings.ofJson_toJson _⟩
    rintro before entry after rfl nothing
    constructor
    · intro other member
      exact readable other (by grind)
    · simp only [Settings.takingAll, Setting.lastGiven?_of_none (nothing _)]

/-- Both layouts in turn, with a target that is no object between them. -/
theorem last_entry_wins_mixed :
    let before : List (String × Json) :=
      [("kotlin", .obj [("packageName", .str "first"), ("imports", .arr [.str "Record"])])]
    let after : List (String × Json) :=
      [("kotlin_package_name", .str "second"), ("swift_imports", .arr [.str "Core"]),
        ("kotlin", .obj [("packageName", .str "third")]), ("swift", .obj [("imports", .str "UI")])]
    let settings : Settings :=
      { kotlinPackage := .str "third"
        kotlinImports := .arr [.str "Record"]
        swiftImports := .arr [.str "U", .str "I"] }
    Settings.ofJson (.obj (before ++ ("swift", .str "none") :: after)) = .ok settings ∧
    (∀ setting : Setting, setting.given? ("swift", .str "none") = none) ∧
    Settings.ofJson (.obj (before ++ after)) = .ok settings := by
  intro before after settings
  have read :
      Settings.ofJson (.obj (before ++ ("swift", .str "none") :: after)) = .ok settings := rfl
  obtain ⟨_, irrelevant, found⟩ :=
    last_entry_wins (before ++ ("swift", .str "none") :: after)
  have nothing : ∀ setting : Setting, setting.given? ("swift", .str "none") = none := by
    refine irrelevant _ ?_ (.inr fun fields => ?_)
    · intro setting
      cases setting <;> decide
    · exact Json.noConfusion
  obtain ⟨_, removable, _⟩ := found settings read
  exact ⟨read, nothing, removable before _ after rfl nothing⟩

end NativeRecords
