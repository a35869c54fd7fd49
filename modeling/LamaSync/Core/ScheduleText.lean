import LamaSync.Core.Folders

/-!
# Schedule texts

`validateScheduleExpression` is what the routes ask of a schedule before they store it.  It looks at the text without the
blanks around it, and so does the daemon that reads the stored text.  A blank text is an error, which the folder routes do
not ask for: to them it means that there is no schedule.
-/

namespace LamaSync

def cronKeywords : List String := ["@hourly", "@daily", "@weekly", "@monthly", "@yearly", "@annually"]

def scheduleSpecialKeywords : List String := ["@reboot", "@login"]

def scheduleFields (trimmed : String) : List (List Char) :=
  (trimmed.toList.splitOnP isJsSpace).filter fun field => !field.isEmpty

def validateScheduleExpression (cronError : String → Option String) (expr : String) : Option String :=
  let trimmed := trimText expr
  if trimmed = "" then some "schedule is empty; leave it unset to keep the protection manual-only"
  else if trimmed ∈ scheduleSpecialKeywords then none
  else if trimmed.startsWith "@" ∧ trimmed ∉ cronKeywords then
    some ("unknown schedule keyword '" ++ trimmed ++
      "' (supported: @reboot, @login, @hourly, @daily, @weekly, @monthly, @yearly, @annually)")
  else if trimmed ∉ cronKeywords ∧ (scheduleFields trimmed).length ≠ 5 then
    some "cron must have 5 fields (minute hour day-of-month month day-of-week), e.g. \x600 */6 * * *\x60"
  else (cronError trimmed).map fun message => "invalid cron expression: " ++ message

def unlessBlank (value : Option String) : Option String := value.filter fun text => trimText text ≠ ""

end LamaSync
