import Killfile.Program
import Killfile.Proofs.Options

/-! Where settings come from. What stands on the command line comes before the environment, and this
before the file. Layers of settings may be put together in any grouping. -/

namespace Killfile

namespace Settings

/-- The setting that an option stands for, if it stands for one. -/
def value (s : Settings) : Opt → Option String
  | .apiEndpoint => s.apiEndpoint
  | .apiKey => s.apiKey
  | .killfilePath => s.killfilePath
  | .killfileUrl => s.killfileUrl
  | .logLevel => s.logLevel
  | .interval => s.refreshInterval
  | _ => none

theorem value_overlay (lower upper : Settings) (o : Opt) :
    (lower.overlay upper).value o = (upper.value o <|> lower.value o) := by
  cases o <;> rfl

theorem ext_value {s t : Settings} (h : ∀ o, s.value o = t.value o) : s = t := by
  cases s
  cases t
  simp only [mk.injEq]
  exact ⟨h .apiEndpoint, h .apiKey, h .killfilePath, h .killfileUrl, h .logLevel, h .interval⟩

/-- Layers of settings, put together two by two. -/
inductive Layering where
  | layer (s : Settings)
  | merge (lower upper : Layering)

namespace Layering

/-- The layers, the lowest first. -/
def layers : Layering → List Settings
  | layer s => [s]
  | merge lower upper => lower.layers ++ upper.layers

/-- What the layers make together. -/
def merged : Layering → Settings
  | layer s => s
  | merge lower upper => lower.merged.overlay upper.merged

/-- Each setting is the one of the last layer that has it. -/
theorem merged_value (g : Layering) (o : Opt) :
    g.merged.value o = (g.layers.filterMap (·.value o)).getLast? := by
  induction g with
  | layer s => cases h : s.value o <;> simp [merged, layers, h]
  | merge lower upper hl hu =>
    rw [merged, value_overlay, hl, hu]
    simp [layers, List.getLast?_append]

/-- The grouping of layers does not matter. -/
theorem merged_eq {g g' : Layering} (h : g.layers = g'.layers) : g.merged = g'.merged :=
  ext_value fun o => by rw [merged_value, merged_value, h]

end Layering

end Settings

namespace CommandLine

/-- The options that stand for settings of every command. -/
def settingOptions : List Opt := [.apiEndpoint, .apiKey, .killfilePath, .killfileUrl, .logLevel]

section Invocation

variable {env : String → Option String} {args : List String} {scope : Scope} {i : Invocation}
  {before after : List (Opt × String)} {vs ws : List (Opt × Value)}

theorem mem_shared (o : Opt) (h : o ∈ Opt.shared) : o ∈ scope.options := by
  cases scope <;> simp [Scope.options, h]

theorem value_settings (hvs : addVariables env before Scope.top.options = .ok vs)
    (hws : addVariables env after scope.options = .ok ws) :
    ∀ o ∈ settingOptions, (invocation scope vs ws).settings.value o = stated env before after o := by
  intro o ho
  have hshared : o ∈ Opt.shared := by
    revert o
    decide
  rw [← choose_stated hvs hws (mem_shared o hshared)]
  cases o <;> first | rfl | simp [settingOptions] at ho

theorem config_invocation (hvs : addVariables env before Scope.top.options = .ok vs)
    (hws : addVariables env after scope.options = .ok ws) :
    (invocation scope vs ws).config = stated env before after .config :=
  choose_stated hvs hws (mem_shared .config (by decide))

theorem daemon_invocation {interval : Option String} {noInitialRun simulate : Bool}
    (hvs : addVariables env before Scope.top.options = .ok vs)
    (hws : addVariables env after scope.options = .ok ws)
    (h : (invocation scope vs ws).command = .daemon interval noInitialRun simulate) :
    interval = stated env before after .interval := by
  cases scope with
  | daemon =>
    rw [← choose_stated hvs hws (by decide)]
    exact (Command.daemon.inj h).1.symm
  | top => cases h
  | run => cases h
  | check => cases h

end Invocation

end CommandLine

namespace Program

variable {W : Type}

/-- The settings that a program works with, by what is stated of each option, and by the settings of
the file. -/
structure Prefers (s : Surroundings W) (args : List String) (i : Invocation) (file : Settings)
    (stated : Opt → Option String) (merged : Settings) : Prop where
  config : i.config = stated .config
  settings : Program.settings s i = .ok merged
  value : ∀ o ∈ CommandLine.settingOptions, merged.value o = (stated o <|> file.value o)
  refreshInterval : merged.refreshInterval = file.refreshInterval
  run : Program.run s args = execute s merged i.command
  /-- The interval of a daemon passes by the settings that are put together. -/
  daemon : ∀ interval noInitialRun simulate, i.command = .daemon interval noInitialRun simulate →
    execute s merged i.command = connected s merged fun reader reading => do
      let result ← Task.daemon reader (List.replicate s.passes reading)
        ((stated .interval <|> file.refreshInterval).getD "30m") (!noInitialRun) simulate
      pure (exitOf { result })

variable {s : Surroundings W} {args : List String} {i : Invocation} {file : Settings}

theorem prefers {scope : CommandLine.Scope} {before after : List (Opt × String)}
    (parsed : CommandLine.parse s.env args = .ok i) (loaded : fileSettings s i.config = .ok file)
    (spelled : CommandLine.Spelled args scope before after) :
    Prefers s args i file (CommandLine.stated s.env before after) (file.overlay i.settings) := by
  have hsettings : settings s i = .ok (file.overlay i.settings) := by rw [settings, loaded]; rfl
  obtain ⟨vs, ws, hvs, hws, rfl⟩ := CommandLine.parse_spelled parsed spelled
  have hrefresh : (file.overlay (CommandLine.invocation scope vs ws).settings).refreshInterval =
      file.refreshInterval := rfl
  refine ⟨CommandLine.config_invocation hvs hws, hsettings, fun o ho => ?_, hrefresh,
    by rw [run, parsed]; simp only [hsettings], ?_⟩
  · rw [Settings.value_overlay, CommandLine.value_settings hvs hws o ho]
  · intro interval noInitialRun simulate hcommand
    obtain rfl := CommandLine.daemon_invocation hvs hws hcommand
    have hinterval : ((CommandLine.stated s.env before after .interval).getD
        (file.overlay (CommandLine.invocation scope vs ws).settings).interval) =
        (CommandLine.stated s.env before after .interval <|> file.refreshInterval).getD "30m" := by
      rw [Settings.interval, hrefresh]
      cases CommandLine.stated s.env before after .interval <;> rfl
    rw [hcommand, execute, hinterval]

/-- Every setting of a program is the one of the command line, where options may stand before the
command and after it, or else the one of the environment, or else the one of the file. The interval
of settings is the one of the file, and a daemon has its own. -/
theorem settings_exact (parsed : CommandLine.parse s.env args = .ok i)
    (loaded : fileSettings s i.config = .ok file) :
    ((∃ scope before after, CommandLine.Spelled args scope before after) ∧
      ∀ scope before after, CommandLine.Spelled args scope before after →
        ∃ merged, Prefers s args i file (CommandLine.stated s.env before after) merged) ∧
    ∀ g : Settings.Layering,
      (∀ g' : Settings.Layering, g.layers = g'.layers → g.merged = g'.merged) ∧
      ∀ o, g.merged.value o = (g.layers.filterMap (·.value o)).getLast? :=
  ⟨⟨CommandLine.exists_spelled parsed, fun _ _ _ spelled => ⟨_, prefers parsed loaded spelled⟩⟩,
    fun g => ⟨fun _ => Settings.Layering.merged_eq, g.merged_value⟩⟩

/-- Surroundings where a file, the environment and the command line say something. -/
def layeredSurroundings : Surroundings Unit where
  env := fun name => if name = "MF_LOG_LEVEL" then some "" else
    if name = "MF_API_KEY" then some "spare" else none
  read := fun _ => .ok "log_level = \"warn\"\nrefresh_interval = \"2h\"\nkillfile_path = \"k\""
  usualFile := some "sidekick.toml"
  transport := .unreachable

def layeredArgs : List String := ["--api-key", "key", "daemon", "-i5m", "--api-endpoint=http://mf"]

def layeredFile : Settings where
  logLevel := some "warn"
  refreshInterval := some "2h"
  killfilePath := some "k"

def layeredInvocation : Invocation where
  command := .daemon (some "5m") false false
  config := none
  settings := { apiEndpoint := some "http://mf", apiKey := some "key", logLevel := some "" }

theorem ok_of_toOption {ε α : Type} {x : Except ε α} {a : α} (h : x.toOption = some a) : x = .ok a := by
  cases x with
  | error e => cases h
  | ok b => exact congrArg Except.ok (Option.some.inj h)

theorem settings_exact_layered :
    CommandLine.parse layeredSurroundings.env layeredArgs = .ok layeredInvocation ∧
    fileSettings layeredSurroundings layeredInvocation.config = .ok layeredFile ∧
    ∃ scope before after, CommandLine.Spelled layeredArgs scope before after ∧
      ∃ merged, Prefers layeredSurroundings layeredArgs layeredInvocation layeredFile
        (CommandLine.stated layeredSurroundings.env before after) merged := by
  have parsed : CommandLine.parse layeredSurroundings.env layeredArgs = .ok layeredInvocation :=
    ok_of_toOption (by decide +kernel)
  have loaded : fileSettings layeredSurroundings layeredInvocation.config = .ok layeredFile :=
    ok_of_toOption (by decide +kernel)
  obtain ⟨⟨⟨scope, before, after, spelled⟩, prefers⟩, -⟩ := settings_exact parsed loaded
  exact ⟨parsed, loaded, scope, before, after, spelled, prefers scope before after spelled⟩

end Program

end Killfile
