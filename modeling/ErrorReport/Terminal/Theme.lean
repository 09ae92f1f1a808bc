/-
# ErrorReport.Terminal.Theme — the two looks of a report.

The plain theme lays text out and decorates nothing. The ansi theme also paints, unless colours are
turned off; even then it searches and changes text as if there were colours, and since there are
none to be found, what it writes is the text itself.

A theme decorates pieces of text (`paint`), lays out rules and columns, colours source lines, and
changes blocks of finished lines: `highlight` points out a token on one line, `faded` takes all
colour out, and `indented` moves lines to the right.
-/
import ErrorReport.Source.Lexeme
import ErrorReport.Terminal.Style
import ErrorReport.Text.Cut

namespace ErrorReport.Terminal

/-- The looks to choose from. -/
inductive ThemeName where
  | ansi
  | plain
  deriving DecidableEq, Repr, Inhabited

/-- What a look is called. -/
def ThemeName.name : ThemeName → Text
  | ansi => "ansi".toList
  | plain => "plain".toList

/-- The looks by their names. -/
def ThemeName.byName : List (Text × ThemeName) :=
  [ThemeName.ansi, .plain].map fun t => (t.name, t)

/-- The look called by a name. -/
def ThemeName.ofName? (name : Text) : Option ThemeName := ThemeName.byName.lookup name

/-- A look, on a terminal that shows colours or does not. -/
structure Theme where
  name : ThemeName := .ansi
  colours : Bool := true
  deriving DecidableEq, Repr, Inhabited

/-- How each kind of lexeme is painted. -/
def lexemeStyle : Source.Kind → Style
  | .comment => { foreground := some .brightBlack }
  | .string => { foreground := some .green }
  | .symbol => { foreground := some .magenta }
  | .number => { foreground := some .cyan }
  | .keyword => { bold := true, foreground := some .blue }
  | .constant => { foreground := some .yellow }

namespace Theme

/-- The theme shows styles. -/
def paints (θ : Theme) : Bool := θ.name = .ansi && θ.colours

/-- A text in a style, where the theme shows styles. -/
def paint (θ : Theme) (s : Style) (t : Text) : Text :=
  if θ.paints then s.paint t else t

/-! ## Layout -/

/-- How wide rules are. -/
def ruleWidth : Nat := 70

/-- A rule across the report, on a line of its own. -/
def rule (θ : Theme) : Text :=
  θ.paint .rule (List.replicate ruleWidth '=') ++ [Text.newline]

/-- Finished columns side by side on a line. -/
def columns (θ : Theme) (cells : List Text) : Text :=
  (θ.paint .rule " | ".toList).intercalate cells ++ [Text.newline]

/-- A block with `margin` in front of every line. -/
def indented (margin block : Text) : Text := Text.mapLines (margin ++ ·) block

/-! ## Source -/

/-- A source line with its lexemes painted. -/
def coloured (θ : Theme) (line : Text) : Text :=
  (Source.lexemes line).flatMap fun lexeme =>
    match lexeme.kind with
    | some kind => θ.paint (lexemeStyle kind) lexeme.text
    | none => lexeme.text

/-- Source with the lexemes of every line painted. -/
def colouredSource (θ : Theme) (source : Text) : Text := Text.mapBodies θ.coloured source

/-! ## Finished blocks -/

/-- A block in which every occurrence of `token` in the visible text of one line is pointed out.
The line is given by its index, counted from zero. The empty token is found nowhere. -/
def highlight (θ : Theme) (index : Nat) (token block : Text) : Text :=
  match θ.name with
  | .plain => block
  | .ansi =>
    if token = [] then block
    else
      let shown := θ.paint .highlight token
      Text.mapLineAt index (mapVisible (Text.substitute token shown)) block

/-- A block without colours, faint throughout. -/
def faded (θ : Theme) (block : Text) : Text :=
  match θ.name with
  | .plain => block
  | .ansi => Text.mapBodies (θ.paint .faint) (strip block)

end Theme

end ErrorReport.Terminal
