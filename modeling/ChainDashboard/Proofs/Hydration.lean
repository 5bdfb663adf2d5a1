import ChainDashboard.Environment.Config
import ChainDashboard.Proofs.EnvFile
import ChainDashboard.Telemetry.Setup

/-!
# Variables of the environment come before the `.env` file

Whatever a `.env` file says, and wherever loading it ends, a variable that the environment holds as
a text keeps it. A second load finds every key set that the first one came to, so it leaves the
environment alone, also when the first one ended early or has set the variable that turns the file
off (`file_gives_defaults`). Settings that are read after one more load are therefore those of the
environment that the configuration was read from.
-/

namespace ChainDashboard

/-! ## What a load keeps -/

namespace EnvFile

theorem held?_hydrate {name value : String} (file : FileState) {env : Environment}
    (held : env.held? name = some value) :
    (hydrate file env).2.held? name = some value := by
  unfold hydrate
  split
  · exact held
  · split
    · exact held
    · exact held?_loadLines _ _ held
    · exact held

end EnvFile

/-- Reading the configuration loads the file, whatever comes of it. -/
theorem ApiConfig.environment_load (file : FileState) (env : Environment) :
    (load file env).2 = (EnvFile.hydrate file env).2 := by
  unfold load
  split <;> rename_i loaded <;> rw [loaded]

/-! ## The file gives defaults only -/

namespace EnvFile

/-- A file gives defaults for an environment, and it does so once. -/
structure GivesDefaults (file : FileState) (env : Environment) : Prop where
  /-- A variable that is set to a text keeps it. -/
  kept : ∀ name value, env.find? name = some (.text value) →
    (hydrate file env).2.find? name = some (.text value)
  /-- A name that leads to a text leads to the same text. -/
  read : ∀ name value, env.text? name = some value →
    (hydrate file env).2.text? name = some value
  turned_off : (env.find? "PANIC_SKIP_DOTENV").isSome → hydrate file env = (.ok (), env)
  /-- A second load changes nothing, wherever the first one ended. -/
  settled : (hydrate file (hydrate file env).2).2 = (hydrate file env).2
  /-- It ends as the first one did, unless the first one has turned the file off. -/
  ends_alike : (hydrate file (hydrate file env).2).1 =
    if ((hydrate file env).2.find? "PANIC_SKIP_DOTENV").isSome then .ok ()
    else (hydrate file env).1
  /-- The settings of every program are read from the variables that the configuration was read
  from, although the file is loaded once more for them. -/
  settings : ∀ program, TelemetryConfig.load program file (ApiConfig.load file env).2 =
    (TelemetryConfig.ofEnvironment program (ApiConfig.load file env).2, (ApiConfig.load file env).2)

/-- **The environment comes first**, whatever the file holds, and the file is settled with the first
load. -/
theorem file_gives_defaults (file : FileState) (env : Environment) :
    GivesDefaults file env where
  kept name value set :=
    Environment.held?_eq_some.mp (held?_hydrate file (Environment.held?_eq_some.mpr set))
  read name value := Environment.text?_of_kept fun _ _ held => held?_hydrate file held
  turned_off off := if_pos off
  settled := by rw [hydrate_twice]
  ends_alike := by
    rw [hydrate_twice]
    rfl
  settings program := by
    rw [TelemetryConfig.load, ApiConfig.environment_load, hydrate_twice]

/-- The second line refers to what only the third one sets. A second load would give `B` another
value, but it is set by then; the last line ends both loads. -/
example :
    let load (env : Environment) := (hydrate (some "A=kept\nB=$C\nC=1\n!\n".toUTF8) env).2
    ["A", "B", "C"].map (load (load (.ofList [("A", .text "first")]))).held? =
      [some "first", some "", some "1"] := by
  decide +kernel

end EnvFile

end ChainDashboard
