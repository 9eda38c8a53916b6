import PageWatch.CommandLine.Arguments

/-!
# Flags in place of file values

The settings of a run come from three places.  What the command line says counts; where it says
nothing, the settings file does; and where that says nothing either, the standard settings hold.

The file has to be usable by itself: one that gives a check interval of zero is refused, even if
the command line has another interval in its place.
-/

namespace PageWatch

/-! ## What a file gives -/

namespace Settings

/-- The fields that the text of a settings file gives. -/
def given (text : String) : Except Json.Failure Given :=
  Json.Reader.whole
    (Json.Reader.record "struct WaitConfig" ({} : Given) Given.member (fun given => pure given)
      Given.inOrder) text

theorem ofJson_eq (text : String) :
    ofJson text = (given text).map fun given => given.overlay standard := by
  change (given text >>= fun given => pure (given.overlay standard)) = _
  cases given text <;> rfl

/-- A settings file is loaded as it was read, unless it gives a check interval of zero. -/
theorem load_eq {path text : String} {content : FileContent} {given : Given}
    (readable : content.text = .ok text) (gives : Settings.given text = .ok given) :
    load path content = validate (given.overlay standard) := by
  simp only [load, readable, ofJson_eq, gives, Except.map]

/-- The standard settings are valid, so a file without a check interval is, too. -/
theorem isValid_overlay_standard {given : Given} :
    (given.overlay standard).IsValid ↔ given.checkIntervalMs ≠ some 0 := by
  cases interval : given.checkIntervalMs with
  | none => simp [IsValid, Given.overlay, interval, standard]
  | some ms => simp [IsValid, Given.overlay, interval, Nat.pos_iff_ne_zero]

theorem validate_eq_ok {settings valid : Settings} :
    validate settings = .ok valid ↔ valid = settings ∧ settings.IsValid := by
  unfold validate
  split <;> simp_all [eq_comm]

theorem validate_eq_error {settings : Settings} (unusable : ¬ settings.IsValid) :
    validate settings = .error .invalid :=
  if_neg unusable

end Settings

namespace CommandLine.Arguments

open Settings

/-- The fields that the settings file of a run gives; without a file, there are none. -/
def FileGives (arguments : Arguments) (content : String → FileContent) (given : Given) : Prop :=
  match arguments.config with
  | none => given = {}
  | some path => ∃ text, (content path).text = .ok text ∧ Settings.given text = .ok given

/-- What a flag says comes first, then what the file gives, then what is standard.  A run sleeps
if the file or a flag says so, and on every live page. -/
def merged (arguments : Arguments) (given : Given) : Settings where
  checkIntervalMs := (arguments.intervalMs.or given.checkIntervalMs).getD standard.checkIntervalMs
  budgetMs := (arguments.budgetMs.or given.budgetMs).getD standard.budgetMs
  realtime := given.realtime.getD standard.realtime || arguments.realtime || arguments.url.isSome

theorem overlay_overlay (arguments : Arguments) (given : Given) :
    arguments.overlay (given.overlay standard) = arguments.merged given := by
  simp only [overlay, Given.overlay, merged, Settings.mk.injEq]
  refine ⟨?_, ?_, ?_⟩
  · cases arguments.intervalMs <;> rfl
  · cases arguments.budgetMs <;> rfl
  · rw [Bool.or_comm, ← Bool.or_assoc]

/-- The settings of a run are checked twice: those of the file, and those that are used. -/
theorem settings_eq {arguments : Arguments} {content : String → FileContent} {given : Given}
    (gives : arguments.FileGives content given) :
    arguments.settings content =
      (validate (given.overlay standard)).bind fun _ => validate (arguments.merged given) := by
  rw [← overlay_overlay]
  cases config : arguments.config with
  | none =>
      obtain rfl : given = {} := by simpa [FileGives, config] using gives
      simp only [settings, config]
      rfl
  | some path =>
      obtain ⟨text, readable, given_eq⟩ :
          ∃ text, (content path).text = .ok text ∧ Settings.given text = .ok given := by
        simpa [FileGives, config] using gives
      simp only [settings, config, load_eq readable given_eq]
      by_cases valid : (given.overlay standard).IsValid
      · rw [validate_eq_ok.mpr ⟨rfl, valid⟩]
        rfl
      · rw [validate_eq_error valid]
        rfl

/-- Flags override the settings file.  The settings of a run are the merged ones, and a run has
settings exactly if some time passes between two checks by them and the file does not itself give
a check interval of zero.  Otherwise the settings are refused as invalid. -/
theorem settings_merged {arguments : Arguments} {content : String → FileContent} {given : Given}
    (gives : arguments.FileGives content given) :
    let merged := arguments.merged given
    (∀ settings, arguments.settings content = .ok settings ↔
      settings = merged ∧ 0 < merged.checkIntervalMs ∧ given.checkIntervalMs ≠ some 0) ∧
    (merged.checkIntervalMs = 0 ∨ given.checkIntervalMs = some 0 →
      arguments.settings content = .error .invalid) := by
  intro merged
  rw [settings_eq gives]
  by_cases fileValid : (given.overlay standard).IsValid
  · have notZero := isValid_overlay_standard.mp fileValid
    rw [validate_eq_ok.mpr ⟨rfl, fileValid⟩]
    refine ⟨fun settings => ?_, fun unusable => ?_⟩
    · exact validate_eq_ok.trans (and_congr_right' (and_iff_left notZero).symm)
    · have zero : merged.checkIntervalMs = 0 := unusable.resolve_right notZero
      exact validate_eq_error (Nat.not_lt.mpr (Nat.le_of_eq zero))
  · have zero : given.checkIntervalMs = some 0 :=
      Decidable.not_not.mp fun notZero => fileValid (isValid_overlay_standard.mpr notZero)
    rw [validate_eq_error fileValid]
    exact ⟨fun settings => ⟨nofun, fun valid => absurd zero valid.2.2⟩, fun _ => rfl⟩

/-- A settings file that gives two of the three fields. -/
def watchFile : String → FileContent := fun _ =>
  .ok "\x7b \"check_interval_ms\": 25, \"budget_ms\": 500, \"title\": [1] \x7d".toUTF8

theorem settings_merged_watch :
    let arguments : Arguments :=
      { script := "s.js", config := some "c.json", budgetMs := some 60, url := some "u" }
    let given : Given := { checkIntervalMs := some 25, budgetMs := some 500 }
    arguments.FileGives watchFile given ∧
      arguments.settings watchFile = .ok ⟨25, 60, true⟩ := by
  intro arguments given
  have gives : arguments.FileGives watchFile given :=
    ⟨"\x7b \"check_interval_ms\": 25, \"budget_ms\": 500, \"title\": [1] \x7d", rfl, rfl⟩
  have usable : 0 < (arguments.merged given).checkIntervalMs ∧ given.checkIntervalMs ≠ some 0 := by
    decide
  exact ⟨gives, ((settings_merged gives).1 ⟨25, 60, true⟩).mpr ⟨rfl, usable⟩⟩

/-- A settings file with a check interval of zero. -/
def idleFile : String → FileContent := fun _ =>
  .ok "\x7b\"check_interval_ms\": 0\x7d".toUTF8

/-- An interval on the command line does not make up for one of zero in the file. -/
theorem zero_in_file_refused :
    let arguments : Arguments :=
      { script := "s.js", config := some "c.json", intervalMs := some 5 }
    Arguments.read ["s.js", "--config", "c.json", "--interval-ms", "5"] = .ok arguments ∧
      Settings.ofJson "\x7b\"check_interval_ms\": 0\x7d" = .ok ⟨0, 30000, false⟩ ∧
      (arguments.overlay ⟨0, 30000, false⟩).checkIntervalMs = 5 ∧
      arguments.settings idleFile = .error .invalid :=
  ⟨rfl, rfl, rfl, rfl⟩

end CommandLine.Arguments

end PageWatch
