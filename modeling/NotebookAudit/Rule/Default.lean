import NotebookAudit.Text.Basic

/-!
The rules that come with the library, as the text of a rule file.
-/

namespace NotebookAudit

/-- The file of the default rules. -/
def defaultRuleFile : Text :=
  "version: \"1.0\"

rules:
  - id: \"1\"
    name: \"Comando SQL Directo\"
    message: \"Se encontró un comando SQL destructivo o de definición (DROP/TRUNCATE/DELETE/ALTER) escrito directamente en el código.\"
    pattern: '\\b(DROP\\s+(TABLE|VIEW|DATABASE|SCHEMA)|TRUNCATE\\s+TABLE|DELETE\\s+FROM|ALTER\\s+TABLE)\\b'
    severity: Critical
    enabled: true

  - id: \"2\"
    name: \"Ruta Hardcodeada\"
    message: \"Se encontró una ruta de almacenamiento escrita directamente en el código. Use widgets o parámetros.\"
    pattern: '[\"''](dbfs:/|/dbfs/|/mnt/|abfss://|wasbs://|s3a?://)'
    severity: Warning
    enabled: true

  - id: \"3\"
    name: \"Base de Datos Hardcodeada\"
    message: \"Se encontró un nombre de base de datos o catálogo fijo. Use un parámetro para el ambiente.\"
    pattern: '\\b(USE\\s+(CATALOG\\s+|DATABASE\\s+|SCHEMA\\s+)?\\w+|(FROM|JOIN|INTO|TABLE)\\s+(dev|qa|test|prod|prd)_\\w+\\.\\w+)'
    severity: Warning
    enabled: true

  - id: \"4\"
    name: \"Display en Producción\"
    message: \"display() no debe quedar en notebooks productivos.\"
    pattern: '^\\s*display\\s*\\('
    severity: Info
    enabled: true

  - id: \"5\"
    name: \"Collect sin Límite\"
    message: \"collect() trae todo el DataFrame al driver; revise si es necesario.\"
    pattern: '\\.collect\\s*\\(\\s*\\)'
    severity: Warning
    enabled: false
"

end NotebookAudit
