import FormScript.Form.Action
import FormScript.Text.Quoted

/-!
# Page scripts

The scripts that carry out actions in a web page. Each is one expression of the page's own language; it
looks its element up by the identifier and ends in an error where there is none. Identifiers and values
stand in a script as quoted literals, so that none of them can end its literal.
Spec: `SPEC_FULL.md`, section 10.
-/

namespace FormScript.Page

open Text (Quoted.literal)

/-- A script of some lines inside a function that is called at once. -/
def Script.enclose (lines : List String) : String :=
  "\n".intercalate (["(() => \x7b"] ++ lines ++ ["  return 'ok';", "\x7d)()"])

/-- What the error of a missing element begins with. -/
def notFoundMark : String := "NOT_FOUND:"

namespace Script

/-- A script that acts on the element with an identifier, which it calls `el`. -/
def withElement (id : String) (lines : List String) : String :=
  let literal := Quoted.literal id
  enclose ([
    s!"  const el = document.getElementById({literal});",
    s!"  if (!el) throw new Error('{notFoundMark} ' + {literal});"] ++ lines)

/-- Tells the page that a value has changed. -/
def notify : List String := [
  "  el.dispatchEvent(new Event('input', \x7b bubbles: true \x7d));",
  "  el.dispatchEvent(new Event('change', \x7b bubbles: true \x7d));"]

/-- Gives the element a value. -/
def assign (value : String) : String :=
  let literal := Quoted.literal value
  s!"  el.value = {literal};"

/-- Clicks an element. -/
def click (id : String) : String :=
  withElement id ["  el.scrollIntoView(\x7b block: 'center' \x7d);", "  el.click();"]

/-- Chooses a radio button. -/
def chooseRadio (id : String) : String :=
  withElement id (["  el.checked = true;", "  el.click();"] ++ notify)

/-- Fills in a value. -/
def fill (id value : String) : String :=
  withElement id (["  el.focus();", assign value] ++ notify)

/-- Chooses the option with a value. -/
def chooseOption (id value : String) : String :=
  let literal := Quoted.literal value
  withElement id ([
    s!"  const opt = Array.from(el.options || []).find(o => o.value === {literal});",
    s!"  if (!opt) throw new Error('option ' + {literal} + ' not offered');",
    assign value] ++ notify)

/-- Sets the date of a date field. -/
def setDate (id value : String) : String :=
  withElement id (["  el.removeAttribute('readonly');", assign value] ++ notify ++ ["  el.blur();"])

/-- Chooses the card whose text ends in `tail`. -/
def chooseCard (tail : String) : String :=
  let literal := Quoted.literal tail
  enclose [
    s!"  const tail = {literal};",
    "  const hit = Array.from(document.querySelectorAll('label, option, li, td, span'))",
    "    .find(n => n.textContent.trim().endsWith(tail));",
    s!"  if (!hit) throw new Error('{notFoundMark} card *' + tail);",
    "  if (hit.tagName === 'OPTION') \x7b",
    "    hit.selected = true;",
    "    hit.parentElement.dispatchEvent(new Event('change', \x7b bubbles: true \x7d));",
    "  \x7d else \x7b",
    "    hit.click();",
    "  \x7d"]

/-- Presses Enter where the page has its focus. -/
def pressEnter : String :=
  enclose [
    "  const el = document.activeElement || document.body;",
    "  for (const type of ['keydown', 'keypress', 'keyup']) \x7b",
    "    el.dispatchEvent(new KeyboardEvent(type, \x7b key: 'Enter', code: 'Enter', keyCode: 13, " ++
      "bubbles: true \x7d));",
    "  \x7d",
    "  if (el.form && typeof el.form.requestSubmit === 'function') el.form.requestSubmit();"]

/-- The script of an action; a wait needs none. Spec: `SPEC_FULL.md`, section 10. -/
def ofAction? : Form.Action → Option String
  | .click id => some (click id)
  | .chooseRadio id => some (chooseRadio id)
  | .chooseCard tail => some (chooseCard tail)
  | .fillSubjectAmount id value => some (fill id value)
  | .chooseOption id value => some (chooseOption id value)
  | .setDate id value => some (setDate id value)
  | .fill id value => some (fill id value)
  | .pressEnter => some pressEnter
  | .wait _ => none

end Script

end FormScript.Page
