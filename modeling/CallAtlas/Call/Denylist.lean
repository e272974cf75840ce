import CallAtlas.Name.Set

/-!
Names that never count as calls to a function of the file: the methods and global
functions of the language's standard objects and of browsers.
-/

namespace CallAtlas

/-- A callee on the list is ignored, whatever the catalog holds. -/
abbrev Denylist := NameSet

namespace Denylist

def documentMethods : List String :=
  ["addEventListener", "removeEventListener", "dispatchEvent", "querySelector", "querySelectorAll",
    "getElementById", "getElementsByClassName", "getElementsByTagName", "createElement",
    "createTextNode", "appendChild", "removeChild", "replaceChild", "insertBefore", "setAttribute",
    "getAttribute", "removeAttribute", "preventDefault", "stopPropagation", "focus", "blur", "click"]

def arrayMethods : List String :=
  ["push", "pop", "shift", "unshift", "slice", "splice", "concat", "join", "reverse", "sort", "map",
    "filter", "reduce", "reduceRight", "forEach", "find", "findIndex", "some", "every", "includes",
    "indexOf", "lastIndexOf", "flat", "flatMap", "fill", "keys", "values", "entries", "from",
    "isArray"]

def stringMethods : List String :=
  ["split", "replace", "replaceAll", "trim", "trimStart", "trimEnd", "toLowerCase", "toUpperCase",
    "substring", "substr", "charAt", "charCodeAt", "startsWith", "endsWith", "padStart", "padEnd",
    "repeat", "match", "toString"]

def consoleMethods : List String :=
  ["log", "warn", "error", "info", "debug", "trace", "table"]

def jsonMethods : List String :=
  ["parse", "stringify"]

def timerFunctions : List String :=
  ["setTimeout", "setInterval", "clearTimeout", "clearInterval", "requestAnimationFrame",
    "cancelAnimationFrame"]

def builtin : Denylist :=
  NameSet.ofList
    (documentMethods ++ arrayMethods ++ stringMethods ++ consoleMethods ++ jsonMethods ++
      timerFunctions)

end Denylist

end CallAtlas
