import PageWatch.Markup.Node

/-!
# Vocabulary

Which elements share a rule when a page is read: which of them bound a scope, which
end without a closing tag, which carry formatting, and how the names of drawings and
formulas are spelt.
-/

namespace PageWatch.Markup

namespace Vocabulary

def headings : List String := ["h1", "h2", "h3", "h4", "h5", "h6"]

/-- Elements of a page's head, which may also come later. -/
def headContent : List String :=
  ["base", "basefont", "bgsound", "link", "meta", "noframes", "script", "style", "template",
   "title"]

/-- Elements that end a paragraph and hold others. -/
def sections : List String :=
  ["address", "article", "aside", "blockquote", "center", "details", "dialog", "dir", "div",
   "dl", "fieldset", "figcaption", "figure", "footer", "header", "hgroup", "main", "menu",
   "nav", "ol", "search", "section", "summary", "ul"]

/-- Elements that change how text looks. -/
def formatting : List String :=
  ["a", "b", "big", "code", "em", "font", "i", "nobr", "s", "small", "strike", "strong", "tt",
   "u"]

/-- Elements that no tag closes and that hold nothing, within text. -/
def voids : List String := ["area", "br", "embed", "img", "keygen", "wbr", "input"]

/-- Elements of a table's structure. -/
def tableParts : List String :=
  ["caption", "col", "colgroup", "tbody", "td", "tfoot", "th", "thead", "tr"]

/-- Groups of a table's rows. -/
def rowGroups : List String := ["tbody", "tfoot", "thead"]

/-- Elements that take no text of their own, so that text in them goes in front of the
table. -/
def tableFrames : List String := ["table", "tbody", "tfoot", "thead", "tr"]

/-- Elements that end by themselves before some closing tags. -/
def impliedEnds : List String :=
  ["dd", "dt", "li", "option", "optgroup", "p", "rb", "rp", "rt", "rtc"]

/-- Elements that end by themselves before the end of a template. -/
def thoroughImpliedEnds : List String := impliedEnds ++ tableParts

/-- Elements that wrongly nested closing tags do not reach across. -/
def special : List String :=
  ["address", "applet", "area", "article", "aside", "base", "basefont", "bgsound",
   "blockquote", "body", "br", "button", "caption", "center", "col", "colgroup", "dd",
   "details", "dir", "div", "dl", "dt", "embed", "fieldset", "figcaption", "figure",
   "footer", "form", "frame", "frameset", "h1", "h2", "h3", "h4", "h5", "h6", "head",
   "header", "hgroup", "hr", "html", "iframe", "img", "input", "isindex", "li", "link",
   "listing", "main", "marquee", "menu", "meta", "nav", "noembed", "noframes", "noscript",
   "object", "ol", "p", "param", "plaintext", "pre", "script", "search", "section", "select",
   "source", "style", "summary", "table", "tbody", "td", "template", "textarea", "tfoot",
   "th", "thead", "title", "tr", "track", "ul", "wbr", "xmp"]

/-- Whether text and tags inside an element of a formula are those of a page. -/
def isTextOfFormula (name : ElementName) : Bool :=
  name.space == .mathml && ["mi", "mo", "mn", "ms", "mtext"].contains name.tag

/-- Whether text and tags inside an element of a drawing are those of a page. -/
def isPageInDrawing (name : ElementName) : Bool :=
  name.space == .svg && ["foreignObject", "desc", "title"].contains name.tag

/-- The bounds of the scope in which most closing tags look for their element. -/
def boundsScope (name : ElementName) : Bool :=
  name.isHtmlIn ["applet", "caption", "html", "table", "td", "th", "marquee", "object",
    "template"] || isTextOfFormula name || isPageInDrawing name

/-- The bounds of the scope of a list's item. -/
def boundsItemScope (name : ElementName) : Bool :=
  boundsScope name || name.isHtmlIn ["ol", "ul"]

def boundsParagraphScope (name : ElementName) : Bool :=
  boundsScope name || name.isHtml "button"

/-- The bounds of the scope of a table's parts. -/
def boundsTableScope (name : ElementName) : Bool :=
  name.isHtmlIn ["html", "table", "template"]

def boundsOptionScope (name : ElementName) : Bool :=
  !name.isHtmlIn ["optgroup", "option"]

/-- Elements of pages that end a drawing or a formula. -/
def leavesForeign : List String :=
  ["b", "big", "blockquote", "body", "br", "center", "code", "dd", "div", "dl", "dt", "em",
   "embed", "h1", "h2", "h3", "h4", "h5", "h6", "head", "hr", "i", "img", "li", "listing",
   "menu", "meta", "nobr", "ol", "p", "pre", "ruby", "s", "small", "span", "strong",
   "strike", "sub", "sup", "table", "tt", "u", "ul", "var"]

/-- The names of drawings' elements that are not in lower case. -/
def drawingTags : List String :=
  ["altGlyph", "altGlyphDef", "altGlyphItem", "animateColor", "animateMotion",
   "animateTransform", "clipPath", "feBlend", "feColorMatrix", "feComponentTransfer",
   "feComposite", "feConvolveMatrix", "feDiffuseLighting", "feDisplacementMap",
   "feDistantLight", "feDropShadow", "feFlood", "feFuncA", "feFuncB", "feFuncG", "feFuncR",
   "feGaussianBlur", "feImage", "feMerge", "feMergeNode", "feMorphology", "feOffset",
   "fePointLight", "feSpecularLighting", "feSpotLight", "feTile", "feTurbulence",
   "foreignObject", "glyphRef", "linearGradient", "radialGradient", "textPath"]

/-- The names of drawings' attributes that are not in lower case. -/
def drawingAttributes : List String :=
  ["attributeName", "attributeType", "baseFrequency", "baseProfile", "calcMode",
   "clipPathUnits", "diffuseConstant", "edgeMode", "filterUnits", "glyphRef",
   "gradientTransform", "gradientUnits", "kernelMatrix", "kernelUnitLength", "keyPoints",
   "keySplines", "keyTimes", "lengthAdjust", "limitingConeAngle", "markerHeight",
   "markerUnits", "markerWidth", "maskContentUnits", "maskUnits", "numOctaves",
   "pathLength", "patternContentUnits", "patternTransform", "patternUnits", "pointsAtX",
   "pointsAtY", "pointsAtZ", "preserveAlpha", "preserveAspectRatio", "primitiveUnits",
   "refX", "refY", "repeatCount", "repeatDur", "requiredExtensions", "requiredFeatures",
   "specularConstant", "specularExponent", "spreadMethod", "startOffset", "stdDeviation",
   "stitchTiles", "surfaceScale", "systemLanguage", "tableValues", "targetX", "targetY",
   "textLength", "viewBox", "viewTarget", "xChannelSelector", "yChannelSelector",
   "zoomAndPan"]

/-- The spelling of a name in a list that differs at most in letter case. -/
def respell (spellings : List String) (name : String) : String :=
  (spellings.find? fun spelling => spelling.map Char.toLower == name).getD name

/-- The attributes that belong to a name space of their own in drawings and formulas,
with their names there. -/
def spacedAttributes : List (String × String) :=
  [("xlink:actuate", "actuate"), ("xlink:arcrole", "arcrole"), ("xlink:href", "href"),
   ("xlink:role", "role"), ("xlink:show", "show"), ("xlink:title", "title"),
   ("xlink:type", "type"), ("xml:lang", "lang"), ("xml:space", "space"), ("xmlns", "xmlns"),
   ("xmlns:xlink", "xlink")]

/-- An attribute of a drawing or a formula, spelt as it is there. -/
def respellAttribute (space : Space) (given : Attribute) : Attribute :=
  let name :=
    match space with
    | .html => given.name
    | .svg => respell drawingAttributes given.name
    | .mathml => respell ["definitionURL"] given.name
  match spacedAttributes.lookup name with
  | some inner => { given with name := inner, spaced := true }
  | none => { given with name }

/-- A tag of a drawing or a formula, with its attributes spelt as they are there. -/
def respellAttributes (space : Space) (tag : Tag) : Tag :=
  { tag with attributes := tag.attributes.map (respellAttribute space) }

end Vocabulary

end PageWatch.Markup
