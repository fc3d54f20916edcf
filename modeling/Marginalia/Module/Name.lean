import Marginalia.File.Path

/-! # Module names
A module is named by a text: a module that comes with the interpreter (`isBuiltin`), an absolute path
of either family of systems (`isAbsolute`), a name with separators, or a bare name. -/

namespace Marginalia.Module

/-- The modules that come with the interpreter. -/
def builtinNames : List String :=
  ["assert", "assert/strict", "async_hooks", "buffer", "child_process",
   "cluster", "console", "constants", "crypto", "dgram",
   "diagnostics_channel", "dns", "dns/promises", "domain", "events", "fs",
   "fs/promises", "http", "http2", "https", "inspector", "module", "net",
   "os", "path", "path/posix", "path/win32", "perf_hooks", "process",
   "punycode", "querystring", "readline", "readline/promises", "repl",
   "stream", "stream/consumers", "stream/promises", "stream/web",
   "string_decoder", "sys", "timers", "timers/promises", "tls",
   "trace_events", "tty", "url", "util", "util/types", "v8", "vm",
   "wasi", "worker_threads", "zlib"]

/-- The scheme in front of the name of a module that comes with the interpreter. -/
def builtinScheme : List Char := "node:".toList

/-- Whether a module comes with the interpreter. -/
def isBuiltin (name : List Char) : Bool :=
  builtinScheme.isPrefixOf name || builtinNames.any fun builtin => builtin.toList == name

/-- Whether a name has a separator of either family of systems. -/
def hasSeparator (name : List Char) : Bool := name.contains '/' || name.contains '\\'

/-- A text with backslashes for slashes. -/
def withBackslashes (name : List Char) : List Char := name.map fun c => if c = '/' then '\\' else c

/-- Whether a text starts with a machine and a share: two separators, two names with one separator
between them, and no third separator in front. -/
def startsWithShare : List Char → Bool
  | '\\' :: '\\' :: machine =>
    machine.head?.any (· != '\\') &&
      match machine.dropWhile (· != '\\') with
      | _ :: share => share.head? != some '\\'
      | [] => false
  | _ => false

/-- Whether a text starts with a drive and a separator. -/
def startsWithDriveRoot : List Char → Bool
  | letter :: ':' :: '\\' :: _ => letter.isAlpha
  | _ => false

/-- The mark in front of a path that the system takes literally. -/
def literalMark : List Char := "\\\\?\\".toList

/-- What follows the mark of a literal path; a share is spelled with a word of its own there. -/
def afterLiteralMark (name : List Char) : List Char :=
  let rest := name.drop literalMark.length
  if "UNC\\".toList.isPrefixOf rest then '\\' :: rest.drop 3 else rest

/-- Whether a name with backslashes is absolute where paths start with drives and shares. -/
def isDriveAbsolute (name : List Char) : Bool :=
  if literalMark.isPrefixOf name then
    let rest := afterLiteralMark name
    startsWithShare rest || startsWithDriveRoot rest || rest.head? == some '\\'
  else startsWithShare name || startsWithDriveRoot name

/-- Whether a name is an absolute path of either family of systems. -/
def isAbsolute (name : List Char) : Bool :=
  name.head? == some '/' || isDriveAbsolute (withBackslashes name)

end Marginalia.Module
