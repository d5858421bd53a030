/-!
# The stylesheet

The look of the windows is a text with places for the colours of a palette. A colour that is missing
is named by the first place that needs it.
-/

namespace Pseudonym.Interface

/-- A part of a template: text as it is, or the place of a colour. -/
inductive Piece where
  | text (s : String)
  | colour (name : String)
deriving DecidableEq, Repr

/-- Colours by name. -/
abbrev Palette := List (String × String)

/-- The colour of a name; a later entry wins. -/
def Palette.get? (p : Palette) (name : String) : Option String :=
  (p.reverse.find? (·.1 = name)).map (·.2)

/-- The dark palette of all windows. -/
def darkPalette : Palette :=
  [("window", "#2b2b2b"), ("field", "#1e1e1e"), ("button", "#3c3f41"), ("button_hover", "#4a4d4f"),
   ("border", "#555555"), ("text", "#e0e0e0"), ("muted", "#777777"), ("accent", "#c678dd")]

/-- A rule on one line: a selector, and its declarations between braces. -/
def rule (selector : String) (declarations : List Piece) : List Piece :=
  [.text (selector ++ " \x7b ")] ++ declarations ++ [.text " \x7d\n"]

/-- A rule whose declarations stand on lines of their own. -/
def block (selector : String) (lines : List (List Piece)) : List Piece :=
  [.text (selector ++ " \x7b\n")] ++ lines.flatMap (fun l => [.text "    "] ++ l ++ [.text "\n"]) ++
    [.text "\x7d\n"]

/-- The template of the stylesheet. -/
def template : List Piece :=
  [.text "\n"] ++
  rule "QMainWindow" [.text "background-color: ", .colour "window", .text ";"] ++
  rule "QWidget" [.text "font-size: 13px; color: ", .colour "text", .text ";"] ++
  block "QPushButton"
    [[.text "background-color: ", .colour "button", .text "; border: 1px solid ",
      .colour "border", .text ";"],
     [.text "border-radius: 4px; padding: 6px 12px;"]] ++
  rule "QPushButton:hover" [.text "background-color: ", .colour "button_hover", .text ";"] ++
  rule "QPushButton:disabled" [.text "color: ", .colour "muted", .text ";"] ++
  block "QLineEdit, QComboBox, QSpinBox, QPlainTextEdit"
    [[.text "background-color: ", .colour "field", .text "; border: 1px solid ",
      .colour "border", .text "; border-radius: 4px;"]] ++
  rule "QProgressBar::chunk" [.text "background-color: ", .colour "accent", .text ";"] ++
  rule "QGroupBox" [.text "border: 1px solid ", .colour "border",
    .text "; border-radius: 4px; margin-top: 8px; font-weight: bold;"] ++
  rule "QGroupBox::title" [.text "subcontrol-origin: margin; left: 10px;"]

/-- Fills in one piece. -/
def Piece.fill (p : Palette) : Piece → Except String String
  | .text s => .ok s
  | .colour name =>
    match p.get? name with
    | some value => .ok value
    | none => .error name

/-- The stylesheet of a palette, or the first colour that is missing. -/
def stylesheet (p : Palette) : Except String String :=
  (template.mapM (Piece.fill p)).map String.join

end Pseudonym.Interface
