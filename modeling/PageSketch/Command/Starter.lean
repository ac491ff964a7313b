/-! The files that a new project starts with. -/
namespace PageSketch.Starter

def ofLines (lines : List String) : String := String.join (lines.map (· ++ "\n"))

/-- The source that a new project starts with. -/
def source (project : String) : String :=
  ofLines
    ["// " ++ project ++ " - Main Component",
      "",
      "@component Main",
      "@theme dark",
      "@accent gold",
      "@responsive true",
      "",
      "\x7b",
      "  Create a welcome section with:",
      "",
      "  Fields:",
      "  - Name input (required, placeholder \"Enter your name\")",
      "  - Email input (required, validate email format)",
      "",
      "  Submit button:",
      "  - Text: \"Get Started\"",
      "",
      "  Behavior:",
      "  - Validate on submit",
      "  - On success: show \"Welcome aboard!\" toast",
      "\x7d"]

/-- The notes that a new project starts with. -/
def notes (project : String) : String :=
  ofLines
    ["# " ++ project,
      "",
      "## Getting Started",
      "",
      "```bash",
      "centaur compile src/Main.centaur dist/",
      "```",
      "",
      "Open `dist/Main.html` in a browser to see the result."]

end PageSketch.Starter
