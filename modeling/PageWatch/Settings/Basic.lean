/-!
# Settings of a run

How often a pending condition is checked, how much timer time a run may cover, and
whether it sleeps through that time.
-/

namespace PageWatch

/-- The settings of a run. -/
structure Settings where
  /-- Milliseconds between two checks of a pending condition. -/
  checkIntervalMs : Nat
  /-- The timer time, in milliseconds, after which pending waits are given up. -/
  budgetMs : Nat
  /-- Whether deadlines are slept through instead of jumped over. -/
  realtime : Bool
  deriving DecidableEq, Repr

namespace Settings

/-- The settings that hold where nothing else is said. -/
def standard : Settings := ⟨10, 30000, false⟩

instance : Inhabited Settings := ⟨standard⟩

/-- Settings can be used if some time passes between two checks. -/
def IsValid (settings : Settings) : Prop := 0 < settings.checkIntervalMs

instance (settings : Settings) : Decidable settings.IsValid :=
  inferInstanceAs (Decidable (0 < settings.checkIntervalMs))

/-- What is said of settings that cannot be used. -/
def invalidMessage : String := "check_interval_ms must be greater than zero"

def withCheckInterval (settings : Settings) (ms : Nat) : Settings :=
  { settings with checkIntervalMs := ms }

def withBudget (settings : Settings) (ms : Nat) : Settings :=
  { settings with budgetMs := ms }

def withRealtime (settings : Settings) (realtime : Bool) : Settings :=
  { settings with realtime }

/-- The settings as the text of a settings file. -/
def toJson (settings : Settings) : String :=
  let interval := toString settings.checkIntervalMs
  let budget := toString settings.budgetMs
  let realtime := if settings.realtime then "true" else "false"
  "\x7b\"check_interval_ms\":" ++ interval ++ ",\"budget_ms\":" ++ budget ++
    ",\"realtime\":" ++ realtime ++ "\x7d"

end Settings

end PageWatch
