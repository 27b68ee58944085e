import BoardRules.Schema.Table

/-!
The tables that a board and its automations are stored in. A table comes after those it refers to.
-/
namespace BoardRules.Schema

def idColumn : Column := { name := "id", type := .uuid }

def textColumn (name : String) (nullable : Bool := false) : Column :=
  { name, type := .text, nullable }

def timeColumn (name : String) : Column := { name, type := .timestamp }

def referenceColumn (name : String) (nullable : Bool := false) : Column :=
  { name, type := .uuid, nullable }

def positionColumn : Column := { name := "position", type := .integer, default := some (.text "0") }

def jsonColumn (name : String) (nullable : Bool := false) : Column :=
  { name, type := .json, nullable }

def pipeTable : Table where
  name := "pipe"
  columns := [idColumn, textColumn "name", timeColumn "created_at"]

def stageTable : Table where
  name := "stage"
  columns := [idColumn, referenceColumn "pipe_id", textColumn "name", positionColumn]
  references := [{ column := "pipe_id", table := "pipe" }]
  indexes := [⟨"ix_stage_pipe_id", ["pipe_id"]⟩]

def formTable : Table where
  name := "stage_form"
  columns :=
    [idColumn, referenceColumn "stage_id", textColumn "name",
      { name := "form_type", type := .varchar 16, default := some (.text "client") },
      jsonColumn "fields", timeColumn "created_at"]
  references := [{ column := "stage_id", table := "stage" }]
  indexes := [⟨"ix_stage_form_stage_id", ["stage_id"]⟩]

def cardTable : Table where
  name := "card"
  columns :=
    [idColumn, referenceColumn "stage_id" true, textColumn "title", textColumn "description" true,
      timeColumn "created_at", timeColumn "updated_at"]
  references := [{ column := "stage_id", table := "stage", onDelete := .setNull }]
  indexes := [⟨"ix_card_stage_id", ["stage_id"]⟩]

def fieldTable : Table where
  name := "card_field"
  columns :=
    [idColumn, referenceColumn "card_id", { name := "key", type := .varchar 255 },
      { name := "type", type := .varchar 32, default := some (.text "text") },
      jsonColumn "value" true, positionColumn, timeColumn "updated_at"]
  references := [{ column := "card_id", table := "card" }]
  indexes := [⟨"ix_card_field_card_id_key", ["card_id", "key"]⟩]

def submissionTable : Table where
  name := "form_submission"
  columns :=
    [idColumn, referenceColumn "card_id", referenceColumn "form_id", jsonColumn "responses",
      textColumn "submitter_email" true, timeColumn "submitted_at"]
  references :=
    [{ column := "card_id", table := "card" }, { column := "form_id", table := "stage_form" }]
  indexes := [⟨"ix_form_submission_card_id", ["card_id"]⟩]

def historyTable : Table where
  name := "card_history"
  columns :=
    [idColumn, referenceColumn "card_id", timeColumn "moved_at",
      referenceColumn "from_stage_id" true, textColumn "from_stage_name" true,
      referenceColumn "to_stage_id", textColumn "to_stage_name"]
  references := [{ column := "card_id", table := "card" }]
  indexes := [⟨"ix_card_history_card_id", ["card_id"]⟩]

def templateTable : Table where
  name := "email_template"
  columns :=
    [idColumn, referenceColumn "pipe_id" true, textColumn "name", textColumn "subject",
      textColumn "body", textColumn "from_email" true, textColumn "from_name" true,
      textColumn "to_email" true, textColumn "cc" true, textColumn "bcc" true,
      timeColumn "created_at"]
  references := [{ column := "pipe_id", table := "pipe" }]

def automationTable : Table where
  name := "automation"
  columns :=
    [idColumn, referenceColumn "pipe_id", referenceColumn "stage_id" true, textColumn "name",
      { name := "enabled", type := .boolean, default := some .truth },
      { name := "trigger_type", type := .varchar 64 }, jsonColumn "trigger_config",
      jsonColumn "conditions" true, jsonColumn "actions",
      { name := "position", type := .integer, nullable := true }, timeColumn "created_at"]
  references :=
    [{ column := "pipe_id", table := "pipe" },
      { column := "stage_id", table := "stage", onDelete := .setNull }]
  indexes := [⟨"ix_automation_pipe_trigger", ["pipe_id", "trigger_type", "enabled"]⟩]

def logTable : Table where
  name := "automation_log"
  columns :=
    [idColumn, referenceColumn "card_id", referenceColumn "automation_id", timeColumn "executed_at",
      { name := "status", type := .varchar 16 }, { name := "trigger_type", type := .varchar 64 },
      { name := "conditions_met", type := .boolean, nullable := true },
      jsonColumn "actions_executed", textColumn "error_message" true]
  references :=
    [{ column := "card_id", table := "card" }, { column := "automation_id", table := "automation" }]
  indexes :=
    [⟨"ix_automation_log_card_id", ["card_id"]⟩,
      ⟨"ix_automation_log_automation_id", ["automation_id"]⟩]

def boardTables : List Table :=
  [pipeTable, stageTable, formTable, cardTable, fieldTable, submissionTable, historyTable,
    templateTable, automationTable, logTable]

/-- Whether each table of a list refers only to tables before it; `known` are those before the
list. -/
def referToEarlier (known : List String) : List Table → Bool
  | [] => true
  | t :: ts =>
    t.references.all (fun r => known.contains r.table) && referToEarlier (known ++ [t.name]) ts

theorem referToEarlier_boardTables : referToEarlier [] boardTables = true := by decide

end BoardRules.Schema
