import TitleTemplate.Command.Directive
import TitleTemplate.Command.Notice

/-! The log of a run: the lines of its notices, and the setting that says which of them are shown. A
setting is a list of directives with commas between them. -/
namespace TitleTemplate

namespace LogDirective

/-- The directives of a setting. Without any, errors are shown; a setting that cannot be read, or is
missing, shows warnings. -/
def ofSetting (setting : Option String) : List LogDirective :=
  let parts := (splitAtChar ',' (setting.getD "warn").toList).filter (· ≠ [])
  if parts = [] then [⟨"", .all, .error⟩]
  else (parts.mapM ofText?).getD [⟨"", .all, .warn⟩]

/-- The level that directives give to notices of a target with certain fields: that of the most
specific one that fits. -/
def levelOf (directives : List LogDirective) (target : String) (fieldNames : List String) :
    LogLevel :=
  let pick (best : Option LogDirective) (d : LogDirective) : Option LogDirective :=
    (best.filter fun b => !b.yieldsTo d).or (some d)
  let fitting := directives.filter (fits target fieldNames)
  ((fitting.foldl pick none).map LogDirective.level).getD .off

end LogDirective

def logLines (program : String) (setting : Option String) (notices : List Notice) : List String :=
  let directives := LogDirective.ofSetting setting
  let isShown (n : Notice) : Bool :=
    (LogDirective.levelOf directives (n.target program) n.fieldNames).showsNotices
  (notices.filter isShown).flatMap fun n => (splitAtChar '\n' n.line.toList).map String.ofList

end TitleTemplate
