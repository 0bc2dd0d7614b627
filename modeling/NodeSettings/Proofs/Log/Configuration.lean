import NodeSettings.Log.Journal
import NodeSettings.Proofs.Log.Format

/-!
# What an attempt to configure the journal comes to

An attempt on a journal that is configured does nothing. On one that is not, it stops at the first
stage that fails and leaves behind what it had done by then: nothing for a name that is no level's,
the level and no handlers for a format that is beyond bounds, the level and the handler of the
console for a file that is not made. The level is the one that its name stands for, whatever the
case of that name, and that of information for a name that stands for none; two names alone belong
to the log otherwise.
-/

namespace NodeSettings.Log

/-! ### Names of levels -/

namespace Level

/-- A name that belongs to the log otherwise. -/
def Foreign (name : Text) : Prop :=
  Text.upper name = ("BASIC_FORMAT" : Text) ∨ Text.upper name = ("_STYLES" : Text)

/-- The level of a name, whose case does not matter, is that of information if it has no other. -/
def Denotes (name : Text) (level : Level) : Prop :=
  (Text.upper name, level) ∈ named ∨
    (∀ pair ∈ named, pair.1 ≠ Text.upper name) ∧ level = info

theorem ofName_of_foreign {name : Text} (h : Foreign name) :
    ∃ taken, ofName name = .error taken := by
  rcases h with h | h
  · exact ⟨.template, by simp only [ofName, h]; rfl⟩
  · exact ⟨.styles, by simp only [ofName, h]; rfl⟩

theorem ofName_of_not_foreign {name : Text} (h : ¬ Foreign name) :
    ∃ level, ofName name = .ok level ∧ Denotes name level := by
  have hnone : taken.lookup (Text.upper name) = none := by
    rw [List.lookup_eq_none_iff]
    intro pair hpair
    simp only [taken, List.mem_cons, List.not_mem_nil, or_false] at hpair
    rw [bne_iff_ne]
    rcases hpair with rfl | rfl
    · exact fun he => h (.inl he)
    · exact fun he => h (.inr he)
  refine ⟨(named.lookup (Text.upper name)).getD info, by simp only [ofName, hnone], ?_⟩
  cases hl : named.lookup (Text.upper name) with
  | some level =>
    obtain ⟨before, after, hnamed, -⟩ := List.lookup_eq_some_iff.mp hl
    refine .inl ?_
    rw [hnamed]
    exact List.mem_append_right before List.mem_cons_self
  | none =>
    refine .inr ⟨fun pair hpair => ?_, rfl⟩
    have hne := List.lookup_eq_none_iff.mp hl pair hpair
    exact fun he => by simp [he] at hne

end Level

namespace Journal

/-! ### Stages -/

section

variable {m : Machine} {settings : Settings} {request : Request} {j : Journal}

theorem attempt_of_ok {s : Stage} {j' : Journal}
    (h : j.stage m settings request s = (j', .ok ())) (rest : List Stage) :
    j.attempt m settings request (s :: rest) = j'.attempt m settings request rest := by
  simp only [attempt, h]

theorem attempt_of_error {s : Stage} {j' : Journal} {e : ConfigureFailure}
    (h : j.stage m settings request s = (j', .error e)) (rest : List Stage) :
    j.attempt m settings request (s :: rest) = (j', .error e) := by
  simp only [attempt, h]

theorem stage_level_of_ok {level : Level}
    (hl : Level.ofName (request.levelName settings) = .ok level) :
    j.stage m settings request .level = ({ j with level }, .ok ()) := by
  simp only [stage, setLevel, hl]

/-- The handlers for the console, if it is asked for. -/
def consoleHandlers (settings : Settings) (request : Request) (level : Level) (template : Text) :
    List Handler :=
  if request.console then [⟨settings.consoleDestination, level, template, settings.datePattern⟩]
  else []

theorem stage_console_of_template {template : Text} (ht : settings.template m = .ok template) :
    j.stage m settings request .console
      = ({ j with
            handlers := j.handlers ++ consoleHandlers settings request j.level template },
          .ok ()) := by
  simp only [stage, addConsole, ht, consoleHandlers]
  cases request.console with
  | true => rfl
  | false => simp

theorem stage_file_of_not_wantsFile {template : Text} (ht : settings.template m = .ok template)
    (hw : request.wantsFile settings = false) :
    j.stage m settings request .file = (j, .ok ()) := by
  simp only [stage, addFile, ht]
  rw [if_neg (by simp [hw])]

theorem stage_file_of_error {template : Text} (ht : settings.template m = .ok template)
    (hw : request.wantsFile settings) {e : OpenError} (ho : j.openFile request = .error e) :
    j.stage m settings request .file = (j, .error (.file e)) := by
  simp only [stage, addFile, ht]
  rw [if_pos hw, ho]

theorem stage_file_of_ok {template : Text} (ht : settings.template m = .ok template)
    (hw : request.wantsFile settings) {files : FileTree} {place : Option Place}
    (ho : j.openFile request = .ok (files, place)) :
    j.stage m settings request .file
      = ({ j with
            files
            handlers := j.handlers ++ [⟨.file place, j.level, template, settings.datePattern⟩] },
          .ok ()) := by
  simp only [stage, addFile, ht]
  rw [if_pos hw, ho]
  rfl

end

/-! ### Attempts -/

/-- The journal when all but the file is done. -/
def withConsole (j : Journal) (settings : Settings) (request : Request) (level : Level)
    (template : Text) : Journal :=
  { j with level, handlers := consoleHandlers settings request level template }

theorem openFile_withConsole (j : Journal) (settings : Settings) (request : Request)
    (level : Level) (template : Text) :
    (j.withConsole settings request level template).openFile request = j.openFile request := rfl

/-- What an attempt to configure a journal can come to. -/
inductive Attempt (m : Machine) (j : Journal) (settings : Settings) (request : Request) :
    Journal × Except ConfigureFailure Unit → Prop where
  /-- It is configured already. -/
  | kept (h : j.configured) : Attempt m j settings request (j, .ok ())
  /-- The name of the level is none. -/
  | level (h : j.configured = false) {taken : Level.Taken}
      (hl : Level.ofName (request.levelName settings) = .error taken) :
      Attempt m j settings request (j, .error (.level taken))
  /-- The format asks for what is beyond bounds. -/
  | format (h : j.configured = false) {level : Level}
      (hl : Level.ofName (request.levelName settings) = .ok level) {e : ConfigureFailure}
      (ht : settings.template m = .error e) :
      Attempt m j settings request ({ j with level, handlers := [] }, .error e)
  /-- The file is not made. -/
  | file (h : j.configured = false) {level : Level}
      (hl : Level.ofName (request.levelName settings) = .ok level) {template : Text}
      (ht : settings.template m = .ok template) (hw : request.wantsFile settings)
      {e : OpenError} (ho : j.openFile request = .error e) :
      Attempt m j settings request
        (j.withConsole settings request level template, .error (.file e))
  | withFile (h : j.configured = false) {level : Level}
      (hl : Level.ofName (request.levelName settings) = .ok level) {template : Text}
      (ht : settings.template m = .ok template) (hw : request.wantsFile settings)
      {files : FileTree} {place : Option Place}
      (ho : j.openFile request = .ok (files, place)) :
      Attempt m j settings request
        ({ j.withConsole settings request level template with
            configured := true
            files
            handlers := consoleHandlers settings request level template
              ++ [⟨.file place, level, template, settings.datePattern⟩] }, .ok ())
  | withoutFile (h : j.configured = false) {level : Level}
      (hl : Level.ofName (request.levelName settings) = .ok level) {template : Text}
      (ht : settings.template m = .ok template) (hw : request.wantsFile settings = false) :
      Attempt m j settings request
        ({ j.withConsole settings request level template with configured := true }, .ok ())

theorem configure_eq_attempt {j : Journal} (h : j.configured = false) (m : Machine)
    (settings : Settings) (request : Request) :
    j.configure m settings request = j.attempt m settings request Stage.all :=
  if_neg (by simp [h])

theorem configure_of_taken {j : Journal} (h : j.configured = false) (m : Machine)
    {settings : Settings} {request : Request} {taken : Level.Taken}
    (hl : Level.ofName (request.levelName settings) = .error taken) :
    j.configure m settings request = (j, .error (.level taken)) := by
  have hlevel : j.stage m settings request .level = (j, .error (.level taken)) := by
    simp only [stage, setLevel, hl]
  rw [configure_eq_attempt h, Stage.all, attempt_of_error hlevel]

/-- With a level the attempt goes on without handlers. -/
theorem configure_of_ofName {j : Journal} (h : j.configured = false) (m : Machine)
    {settings : Settings} {request : Request} {level : Level}
    (hl : Level.ofName (request.levelName settings) = .ok level) :
    j.configure m settings request
      = { j with level, handlers := [] }.attempt m settings request [.console, .file, .finish] := by
  rw [configure_eq_attempt h, Stage.all, attempt_of_ok (stage_level_of_ok hl), attempt_of_ok rfl]

theorem configure_of_format {j : Journal} (h : j.configured = false) {m : Machine}
    {settings : Settings} {request : Request} {level : Level}
    (hl : Level.ofName (request.levelName settings) = .ok level) {e : ConfigureFailure}
    (ht : settings.template m = .error e) :
    j.configure m settings request = ({ j with level, handlers := [] }, .error e) := by
  have hconsole : { j with level, handlers := [] }.stage m settings request .console
      = ({ j with level, handlers := [] }, .error e) := by
    simp only [stage, addConsole, ht]
  rw [configure_of_ofName h m hl, attempt_of_error hconsole]

/-- With a template the attempt goes on with the handler of the console. -/
theorem configure_of_template {j : Journal} (h : j.configured = false) {m : Machine}
    {settings : Settings} {request : Request} {level : Level}
    (hl : Level.ofName (request.levelName settings) = .ok level) {template : Text}
    (ht : settings.template m = .ok template) :
    j.configure m settings request
      = (j.withConsole settings request level template).attempt m settings request
          [.file, .finish] := by
  rw [configure_of_ofName h m hl, attempt_of_ok (stage_console_of_template ht)]
  rfl

theorem attempt_configure (m : Machine) (j : Journal) (settings : Settings) (request : Request) :
    Attempt m j settings request (j.configure m settings request) := by
  cases h : j.configured with
  | true =>
    rw [configure_of_configured h]
    exact .kept h
  | false =>
    cases hl : Level.ofName (request.levelName settings) with
    | error taken =>
      rw [configure_of_taken h m hl]
      exact .level h hl
    | ok level =>
      cases ht : settings.template m with
      | error e =>
        rw [configure_of_format h hl ht]
        exact .format h hl ht
      | ok template =>
        rw [configure_of_template h hl ht]
        cases hw : request.wantsFile settings with
        | false =>
          rw [attempt_of_ok (stage_file_of_not_wantsFile ht hw)]
          exact .withoutFile h hl ht hw
        | true =>
          cases ho : j.openFile request with
          | error e =>
            rw [attempt_of_error (stage_file_of_error ht hw ((openFile_withConsole ..).trans ho))]
            exact .file h hl ht hw ho
          | ok opened =>
            rw [attempt_of_ok (stage_file_of_ok ht hw ((openFile_withConsole ..).trans ho))]
            exact .withFile h hl ht hw ho

/-! ### Attempts by the name of a level -/

/-- There is a template where the format is not beyond bounds. -/
theorem exists_template_iff (m : Machine) (settings : Settings) :
    (∃ template, settings.template m = .ok template) ↔ ¬ Format.Unbounded m settings.format := by
  unfold Settings.template
  rcases Format.choose_cases m settings.format with ⟨hu, e, h⟩ | ⟨hno, ⟨-, h⟩ | ⟨-, h⟩⟩
  · simp [h, hu]
  · simp [h, hno]
  · simp [h, hno]

/-- What an attempt by the name of a level comes to. -/
structure ByName (m : Machine) (j : Journal) (settings : Settings) (name : Text)
    (o : Journal × Except ConfigureFailure Unit) : Prop where
  returns : o.2 = .ok () ↔ ¬ Level.Foreign name ∧ ¬ Format.Unbounded m settings.format
  level : ¬ Level.Foreign name → Level.Denotes name o.1.level
  foreign : Level.Foreign name → o.1 = j

/-- A journal takes the level of every name but two, and returns for these unless the format of the
settings is beyond bounds. -/
theorem configure_by_name (m : Machine) {j : Journal} {name : Text} (hj : j.configured = false)
    (hn : name ≠ []) (settings : Settings) (console : Bool) :
    ByName m j settings name
      (j.configure m settings { level := some name, console, file := some false }) := by
  have hname : Request.levelName { level := some name, console, file := some false } settings
      = name := by
    simp [Request.levelName, hn]
  by_cases hf : Level.Foreign name
  · obtain ⟨taken, ht⟩ := Level.ofName_of_foreign hf
    rw [configure_of_taken hj m (by rw [hname, ht])]
    exact ⟨by simp [hf], fun h => absurd hf h, fun _ => rfl⟩
  · obtain ⟨level, hl, hd⟩ := Level.ofName_of_not_foreign hf
    have hlevel : Level.ofName (Request.levelName
        { level := some name, console, file := some false } settings) = .ok level := by
      rw [hname, hl]
    have hbounded := exists_template_iff m settings
    cases ht : settings.template m with
    | error e =>
      have hu : Format.Unbounded m settings.format := by simpa [ht] using hbounded
      rw [configure_of_format hj hlevel ht]
      exact ⟨by simp [hu], fun _ => hd, fun h => absurd h hf⟩
    | ok template =>
      have hno : ¬ Format.Unbounded m settings.format := hbounded.mp ⟨template, ht⟩
      rw [configure_of_template hj hlevel ht, attempt_of_ok (stage_file_of_not_wantsFile ht rfl)]
      exact ⟨iff_of_true rfl ⟨hf, hno⟩, fun _ => hd, fun h => absurd h hf⟩

theorem configure_by_name_dotless :
    let m : Machine := ⟨1, 0x7F0000000000, 0x100000, by decide, by decide, by decide⟩
    let name : Text := "warn\u0131ng"
    ({} : Journal).configured = false ∧ name ≠ [] ∧
      ByName m {} {} name
        (({} : Journal).configure m {} { level := some name, file := some false }) ∧
      (({} : Journal).configure m {} { level := some name, file := some false }).1.level
        = Level.warning := by
  intro m name
  exact ⟨rfl, by decide, configure_by_name m rfl (by decide) {} true, by decide +kernel⟩

theorem basic_format_refused :
    let m : Machine := ⟨1, 0x7F0000000000, 0x100000, by decide, by decide, by decide⟩
    ({} : Journal).configure m {} { level := some ("BASIC_FORMAT" : Text), file := some false }
      = ({}, .error (.level .template)) :=
  rfl

end Journal

end NodeSettings.Log
