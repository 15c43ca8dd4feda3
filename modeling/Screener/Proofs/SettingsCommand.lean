import Screener.Proofs.CatalogFiles
import Screener.Proofs.KeptSettings
import Screener.Proofs.SavedFiles

/-!
The command that changes the settings, on any system.  It sets the catalog file, once the catalog has been loaded, then
sets the formulas file, and then shows both.  Whatever stops it before the first setting leaves the settings file as it
was.  A path that leads nowhere for the formulas file stops it between the two, a path with a surrogate while it writes,
and a setting that cannot be shown after them.
-/

namespace Screener

namespace Settings

variable {σ : Type}

def file (system : System σ) (directory : Path) (files : σ) : FileState :=
  system.look files (directory.append ["config"])

variable {system : System σ} {directory path : Path} {states : σ → Prop} {files after : σ} {before : FileState}
  {key : Text} {text : RawText}

end Settings

namespace Cli

variable {σ α β : Type}

def World.settings (world : World σ) (files : σ) : FileState := Settings.file world.system world.settingsDirectory files

def Stop.exitCode : Stop → Nat
  | .exit code => code
  | .failure _ => 1

def World.next (world : World σ) (files : σ) (printed : List (List Output)) : World σ :=
  { world with files := files, printed := printed }

namespace Action

/-- An action gives a value, or stops with an exit code that is not zero, and leaves the files so. -/
inductive Ends (action : Action σ α) (world : World σ) : Option α → σ → Prop
  | value {value : α} {after : σ} {printed : List (List Output)} :
      action.run.run world = (.ok value, world.next after printed) → Ends action world (some value) after
  | stop {stop : Stop} {after : σ} {printed : List (List Output)} :
      action.run.run world = (.error stop, world.next after printed) → stop.exitCode ≠ 0 → Ends action world none after

variable {world : World σ} {files after : σ} {text : RawText} {action : Action σ α} {next : α → Action σ β}

theorem Ends.bind {value : α} {result? : Option β} (h : Ends action world (some value) files)
    (hnext : ∀ printed, Ends (next value) (world.next files printed) result? after) :
    Ends (action >>= next) world result? after := by
  cases h with
  | value hrun =>
    have hbind := run_bind action next world
    rw [hrun] at hbind
    cases hnext _ with
    | value hlast => exact .value (hbind.trans hlast)
    | stop hlast hcode => exact .stop (hbind.trans hlast) hcode

variable {formulas catalog : Option RawText}

variable {states : σ → Prop}

end Action

def configLine : Option Text → Option Text → List Text
  | none, none => ["config"]
  | some formulas, none => ["config", "--formulas-file", formulas]
  | none, some catalog => ["config", "--catalog-file", catalog]
  | some formulas, some catalog => ["config", "--formulas-file", formulas, "--catalog-file", catalog]

theorem ofCommandLine_configLine (formulas catalog : Option Text) :
    Command.ofCommandLine (configLine formulas catalog) = .ok (.config (formulas.map Text.raw) (catalog.map Text.raw)) := by
  cases formulas <;> cases catalog <;> rfl

theorem run_configLine (world : World σ) (formulas catalog : Option Text) :
    run world (configLine formulas catalog) =
      (Command.config (formulas.map Text.raw) (catalog.map Text.raw)).run world := by
  rw [run, ofCommandLine_configLine]

variable {world : World σ} {formulas catalog : Option RawText} {after : σ}

end Cli

end Screener
