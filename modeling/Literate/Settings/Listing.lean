import Literate.Settings
import Literate.Text.Quoted

/-! All settings of a run as a text, for those who look for the reason of its result. -/

namespace Literate

open Text

/-- The listed name of a format. -/
def Format.variant : Format → Text
  | .plain => "Plain".toList
  | .styled => "Styled".toList

namespace Settings

/-- One setting on a line of its own. -/
def listed (name : String) (value : Text) : Text := ("    " ++ name ++ ": ").toList ++ value ++ [',', '\n']

def listedBool (value : Bool) : Text := (if value then "true" else "false").toList

/-- Items of a list, each on a line of its own. -/
def listedTexts : List Text → Text
  | [] => ['[', ']']
  | items => ['[', '\n'] ++ items.flatMap (fun item => "        ".toList ++ quote item ++ [',', '\n']) ++ "    ]".toList

/-- The settings, one to a line. -/
def listing (settings : Settings) : Text :=
  "Options \x7b\n".toList ++
    listed "input" (quote settings.input) ++
    listed "output" (quote settings.output) ++
    listed "format" settings.format.variant ++
    listed "trim" (listedBool settings.trim) ++
    listed "language" (quote settings.language) ++
    listed "source_ext" (quote settings.sourceExtension) ++
    listed "markdown_ext" (quote settings.markdownExtension) ++
    listed "filters" (listedTexts settings.filters) ++
    listed "recursive" (listedBool settings.recursive) ++ ['\x7d']

end Settings

end Literate
