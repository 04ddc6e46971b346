import Westonite.Resolve.ResolveFrom

/-! What holds of the settings of every configuration that resolves. -/

set_option autoImplicit false

namespace Westonite.Resolve

open Library
open Westonite.Config (ConfigError trim deserializeError)

/-! ### The steps of a resolution -/

/-- Everything that the steps of a resolution returned. -/
structure Steps (host : Host) (cli : Cli) (env : Env) (settings : Settings)
    (tree : Westonite.Config.Table) : Prop where
  file : configFile host cli env = (settings.configPath, settings.legacyIniFound)
  loaded : ∃ start, loadTree host settings.configPath = .ok start ∧
    cli.set.foldlM (applyOverride host) start = .ok tree
  config : host.tryInto tree = .ok settings.config
  backends : parseBackends (backendNames cli settings.config.core) [] = .ok settings.backends
  renderer : resolveRenderer cli settings.config.core = .ok settings.renderer
  color : resolveBackgroundColor settings.config.shell = .ok settings.backgroundColor
  settled : settings = assemble cli settings.config settings.backends settings.renderer
    settings.backgroundColor settings.configPath settings.legacyIniFound
  geometry : checkGeometry cli = none
  scales : checkScales settings.config.output = none

private theorem mapError_eq_ok {Error Error' Value : Type} {result : Except Error Value}
    {message : Error → Error'} {value : Value} :
    result.mapError message = .ok value ↔ result = .ok value := by
  cases result with
  | error e => simp [Except.mapError]
  | ok found => simp [Except.mapError]

theorem resolveFrom_steps {host : Host} {cli : Cli} {env : Env} {settings : Settings}
    (resolved : resolveFrom host cli env = .ok settings) :
    ∃ tree, Steps host cli env settings tree := by
  unfold resolveFrom at resolved
  cases found : configFile host cli env with
  | mk configPath legacyIniFound =>
      rw [found] at resolved
      obtain ⟨start, loaded, resolved⟩ := bind_eq_ok.mp resolved
      obtain ⟨tree, patched, resolved⟩ := bind_eq_ok.mp resolved
      obtain ⟨config, read, resolved⟩ := bind_eq_ok.mp resolved
      obtain ⟨backends, named, resolved⟩ := bind_eq_ok.mp resolved
      obtain ⟨renderer, drawn, resolved⟩ := bind_eq_ok.mp resolved
      obtain ⟨color, painted, resolved⟩ := bind_eq_ok.mp resolved
      obtain ⟨_, sized, resolved⟩ := bind_eq_ok.mp resolved
      obtain ⟨_, scaled, resolved⟩ := bind_eq_ok.mp resolved
      cases resolved
      exact ⟨tree,
        { file := found
          loaded := ⟨start, loaded, patched⟩
          config := mapError_eq_ok.mp read
          backends := named
          renderer := drawn
          color := painted
          settled := rfl
          geometry := ensure_eq_ok.mp sized
          scales := ensure_eq_ok.mp scaled }⟩

end Westonite.Resolve
