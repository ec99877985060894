import TreeTable.Value.Demand

/-!
Pages: the texts of several views in one frame. The language that frames are written in is a
parameter; all that is known here is the text of the default frame.
-/

namespace TreeTable.Page

def styleSheet : String :=
  "body \x7b font-family: sans-serif; margin: 1em; \x7d\n" ++
  ".view \x7b margin-bottom: 1.5em; \x7d\n" ++
  "table \x7b border-collapse: collapse; \x7d\n" ++
  "th, td \x7b border: 1px solid #ccc; padding: 2px 6px; text-align: left; \x7d\n" ++
  "th \x7b background: #f0f0f0; \x7d\n"

def defaultTemplate : String :=
  "<!DOCTYPE html>\n" ++
  "<html>\n" ++
  "<head>\n" ++
  "<meta charset=\"utf-8\">\n" ++
  "<title>\x7b\x7b title \x7d\x7d</title>\n" ++
  "<style>\n" ++
  "\x7b\x7b css \x7d\x7d\n" ++
  "</style>\n" ++
  "</head>\n" ++
  "<body>\n" ++
  "\x7b% if title %\x7d<h1>\x7b\x7b title \x7d\x7d</h1>\n" ++
  "\x7b% endif %\x7d\n" ++
  "\x7b% for view in views %\x7d<div class=\"view\">\n" ++
  "\x7b\x7b view \x7d\x7d\n" ++
  "</div>\n" ++
  "\x7b% endfor %\x7d\n" ++
  "</body>\n" ++
  "</html>\n"

/-- What is known of a language of templates: which texts are templates, and what a template makes of
a title, a style sheet and the texts of views. -/
structure Language where
  read : (template : String) → Except Failure Unit
  fill : (template : String) → (title css : Value) → (views : List Value) → Except Failure String

def Language.verbatim : Language where
  read _ := .ok ()
  fill template _ _ _ := .ok template

def frame (title css : Value) (views : List Value) : String :=
  "<!DOCTYPE html>\n<html>\n<head>\n<meta charset=\"utf-8\">\n" ++
  "<title>" ++ title.display ++ "</title>\n" ++
  "<style>\n" ++ css.display ++ "\n</style>\n</head>\n<body>\n" ++
  (if title.isEmpty then "" else "<h1>" ++ title.display ++ "</h1>\n") ++ "\n" ++
  String.join (views.map fun view => "<div class=\"view\">\n" ++ view.display ++ "\n</div>\n") ++
  "\n</body>\n</html>"

def Language.ofDefault : Language where
  read template :=
    if template = defaultTemplate then .ok ()
    else .error (.raised (.other "TemplateSyntaxError") "unknown template")
  fill _ title css views := .ok (frame title css views)

def template (language : Language) (given : Option Value) : Except Failure String := do
  let template ← (given.getD (.text defaultTemplate)).asText
  language.read template
  return template

def render (language : Language) (template : String) (title : Value) (texts : List Value) :
    Except Failure String :=
  language.fill template title (.text styleSheet) texts

end TreeTable.Page
