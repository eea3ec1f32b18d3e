import ContractBuild.Text.Basic

/-!
# Log records

A record has the logger that wrote it, a level and a message. Levels are numbers; six of them have names, and any other
is shown by its number.
-/

namespace ContractBuild.Log

/-- A level; higher ones matter more. -/
abbrev Level := Int

def debug : Level := 10
def info : Level := 20
def warning : Level := 30
def error : Level := 40
def critical : Level := 50

/-- The name of a level. -/
def levelName (l : Level) : Text :=
  if l = 0 then "NOTSET"
  else if l = debug then "DEBUG"
  else if l = info then "INFO"
  else if l = warning then "WARNING"
  else if l = error then "ERROR"
  else if l = critical then "CRITICAL"
  else "Level " ++ Text.ofInt l

/-- A log record. -/
structure Record where
  logger : Text
  level : Level
  message : Text
deriving DecidableEq

/-! ## Loggers -/

/-- The logger above all others. -/
def root : Text := "root"

/-- The logger of cargo's own output. -/
def cargoOutput : Text := "near_contract_builder.cargo"

/-- The logger of build sessions. -/
def session : Text := "near_contract_builder.application.services.build_session"

/-- The logger of the search for the artifact. -/
def artifact : Text := "near_contract_builder.infrastructure.adapters.message_parsing.artifact_resolver"

/-- The logger of what runs cargo. -/
def cargo : Text := "near_contract_builder.infrastructure.adapters.build_system.cargo_adapter"

/-- The logger of a whole build. -/
def build : Text := "near_contract_builder.application.use_cases.build_contract"

/-- The logger that stands in for a screen. -/
def screen : Text := "near_contract_builder.application.services.ui_service"

/-- The logger of the choice of a screen. -/
def screenChoice : Text := "near_contract_builder.infrastructure.factories.ui_service_factory"

/-- The logger of the settings. -/
def settings : Text := "near_contract_builder.cli.commands.config_loader"

/-- The logger of the command line. -/
def commandLine : Text := "near_contract_builder.cli.main"

end ContractBuild.Log
