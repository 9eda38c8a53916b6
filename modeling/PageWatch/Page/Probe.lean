import PageWatch.Json.Quoted

/-!
# The script a live page runs

A live page is asked for its matching nodes by a script. The selector enters the
script as one quoted literal, so it cannot end that literal or add code of its own.
-/

namespace PageWatch.Probe

/-- The script up to the selector's literal. -/
def opening : String :=
  "(() => \x7b\n            const elements = document.querySelectorAll("

/-- The script after the selector's literal. -/
def closing : String :=
  ");\n            return Array.from(elements).map((el) => (\x7b\n" ++
  "                tag: el.tagName.toLowerCase(),\n" ++
  "                value: ('value' in el) && typeof el.value === 'string' ? el.value : null\n" ++
  "            \x7d));\n        \x7d)()"

/-- The script that lists the tag and the value of every node matching a selector. -/
def script (selector : String) : String :=
  opening ++ Json.quote selector ++ closing

end PageWatch.Probe
