import RobotTeam.Report.Basic

/-!
Reports for the console, with or without colours. Widths are counted in characters and padding takes
the style of what it pads.
-/

namespace RobotTeam.Report

abbrev Style := List Nat

namespace Style

def cyan : Style := [36]
def yellow : Style := [33]
def red : Style := [31]
def bold : Style := [1]
def dimmed : Style := [2]
def boldCyan : Style := [1, 36]
def boldGreen : Style := [1, 32]
def boldYellow : Style := [1, 33]
def boldRed : Style := [1, 31]

end Style

def reset : String := "\x1b[0m"

def Style.start (style : Style) : String := "\x1b[" ++ ";".intercalate (style.map toString) ++ "m"

/-- A text in a style, or the bare text where colours are off. Where the text itself goes back to plain
text, the style is taken up again. -/
def paint (coloured : Bool) (style : Style) (s : String) : String :=
  if coloured then style.start ++ (reset ++ style.start).intercalate (s.splitOn reset) ++ reset
  else s

def padRight (width : Nat) (s : String) : String := s.pushn ' ' (width - s.length)

/-- Of an odd number of blanks the larger half stands on the right. -/
def centre (width : Nat) (s : String) : String :=
  let blanks := width - s.length
  "".pushn ' ' (blanks / 2) ++ s.pushn ' ' (blanks - blanks / 2)

def ruler (coloured : Bool) : String := paint coloured .cyan ("".pushn '=' 60) ++ "\n"

def header (coloured : Bool) (title : String) : String :=
  ruler coloured ++ paint coloured .bold (centre 60 title) ++ "\n" ++ ruler coloured

def sectionHeader (coloured : Bool) (title : String) : String :=
  "\n" ++ paint coloured .boldCyan title ++ "\n" ++ "".pushn '-' 40 ++ "\n"

def labelled (coloured : Bool) (label text : String) : String :=
  paint coloured .boldCyan label ++ " " ++ text ++ "\n"

def poolLine (coloured : Bool) (pool : Pool) : String :=
  labelled coloured "Pool:"
    (" ".intercalate (pool.entries.map fun e => s!"{e.1.localName}={e.2}"))

def supportStyle : Support → Style
  | .full => .boldGreen
  | .part => .boldYellow
  | .none => .boldRed

def mappingLine (coloured : Bool) (e : Combination × List Iri) : String :=
  let services := if e.2.isEmpty then paint coloured .dimmed "-" else Iri.localNames e.2
  "  " ++ paint coloured .yellow e.1.render ++ " " ++ paint coloured .dimmed "-->" ++ " "
    ++ services ++ "\n"

def metricLine (e : Redundancy.Entry Float) : String :=
  "  " ++ padRight 28 e.service.localName ++ " " ++ padRight 20 e.model.localName ++ " "
    ++ Decimal.fixed 6 e.survival ++ "\n"

def orHint (coloured : Bool) (style : Style) (hint : String) (lines : List String) : String :=
  if lines.isEmpty then "  " ++ paint coloured style hint ++ "\n" else String.join lines

def title : Report → String
  | .mapping _ _ => "Functionality Mapping"
  | .support _ _ _ _ => "Support"
  | .saturation _ _ => "Functional Saturation"
  | .resourceSupport _ _ => "Resource Support"
  | .redundancy _ _ _ _ => "Redundancy"
  | .metricMap _ => "Metric Map"
  | .transportCapacity _ _ _ => "Transport Capacity"

def body (coloured : Bool) : Report → String
  | .mapping pool entries =>
    poolLine coloured pool ++ sectionHeader coloured "Combinations"
      ++ String.join (entries.map (mappingLine coloured))
  | .support service model count degree =>
    s!"{count} x " ++ paint coloured .yellow model.localName ++ " for "
      ++ paint coloured .yellow service.localName ++ ": "
      ++ paint coloured (supportStyle degree) degree.text ++ "\n"
  | .saturation services bounds =>
    labelled coloured "Services:" (Iri.localNames services)
      ++ sectionHeader coloured "Bound per model"
      ++ orHint coloured .dimmed "no model contributes"
        (bounds.entries.map fun e => "  " ++ padRight 24 e.1.localName ++ s!" {e.2}\n")
  | .resourceSupport services combinations =>
    labelled coloured "Services:" (Iri.localNames services)
      ++ sectionHeader coloured "Supporting combinations"
      ++ orHint coloured .red "none" (combinations.map fun c => s!"  {c}\n")
  | .redundancy services pool shared survival =>
    poolLine coloured pool
      ++ labelled coloured "Services:"
        (Iri.localNames services ++ (if shared then " (shared use)" else " (exclusive use)"))
      ++ "\n" ++ paint coloured .bold "Probability of survival:" ++ " "
      ++ paint coloured .boldGreen (Decimal.fixed 6 survival) ++ "\n"
  | .metricMap entries => String.join (entries.map metricLine)
  | .transportCapacity agent model capacity =>
    paint coloured .yellow agent.localName ++ s!" can carry {capacity} x "
      ++ paint coloured .yellow model.localName ++ "\n"

def toConsole (coloured : Bool) (r : Report) : String :=
  header coloured r.title ++ r.body coloured ++ ruler coloured

end RobotTeam.Report
