import LuaSession.Capture

/-!
# Names of the built-in functions

The functions that programs find in place, one type for each library. What they do is in the modules
of the libraries.
-/

namespace LuaSession.Lua

/-- The operations of arithmetic that strings take part in. -/
inductive StringOp
  | add | sub | mul | mod | pow | div | idiv | unm
  deriving DecidableEq, Repr

/-- The basic functions. -/
inductive BasicFn
  | assert | collectgarbage | dofile | error | getmetatable | ipairs | load | loadfile | next | pairs
  | pcall | print | rawequal | rawget | rawlen | rawset | require | select | setmetatable | tonumber
  | tostring | type | warn | xpcall
  | ipairsStep
  deriving DecidableEq, Repr

/-- The functions on strings. -/
inductive StringFn
  | byte | char | dump | find | format | gmatch | gsub | len | lower | match_ | rep | reverse | sub
  | upper | pack | packsize | unpack
  | arith (op : StringOp)
  deriving DecidableEq, Repr

/-- The functions on tables. -/
inductive TableFn
  | concat | insert | move | pack | remove | sort | unpack
  deriving DecidableEq, Repr

/-- The functions on numbers. -/
inductive MathFn
  | abs | acos | asin | atan | ceil | cos | deg | exp | floor | fmod | log | max | min | modf | rad
  | random | randomseed | sin | sqrt | tan | tointeger | type | ult
  | cosh | sinh | tanh | pow | frexp | ldexp | log10
  deriving DecidableEq, Repr

/-- The functions on UTF-8. -/
inductive Utf8Fn
  | char | codepoint | codes | len | offset
  | codesStep (lax : Bool)
  deriving DecidableEq, Repr

/-- The functions on the system. -/
inductive OsFn
  | clock | date | difftime | execute | exit | getenv | remove | rename | setlocale | time | tmpname
  deriving DecidableEq, Repr

/-- The functions on files. -/
inductive IoFn
  | close | flush | input | lines | open_ | output | popen | read | tmpfile | type | write
  | fileClose | fileFlush | fileLines | fileRead | fileSeek | fileSetvbuf | fileWrite | fileText
  | linesStep
  deriving DecidableEq, Repr

/-- The functions on coroutines. -/
inductive CoroutineFn
  | close | create | isyieldable | resume | running | status | wrap | yield
  | resumeWrapped (thread : Nat)
  deriving DecidableEq, Repr

/-- The functions that read the context. -/
inductive Utility
  | chunkText | searchContext | countMatches | extractJson | extractSections | findLine | countLines
  | getLine | quoteMatch
  deriving DecidableEq, Repr

/-- The functions that ask the host. -/
inductive Callback
  | llmQuery | rlmQuery | batchLlmQuery
  deriving DecidableEq, Repr

/-- The functions of the host. `ioWrite` and `ioOutput` give back the table of a stream, `ioLines` and
`ioClose` call the function of the file library where the argument is a file of the process. -/
inductive HostFn
  | print | log
  | ioWrite (handle : Nat) | ioOutput (handle : Nat) | ioLines (real : Nat) | ioClose (real : Nat)
  | unavailable (name : String)
  | streamWrite (channel : Channel) | streamFlush | streamClose | streamSetvbuf
  | utility (u : Utility)
  | callback (c : Callback)
  | failureText
  deriving DecidableEq, Repr

/-- A built-in function. `matches_` goes on with the matches of a pattern in a text; its place is
kept in a cell. -/
inductive Builtin
  | basic (f : BasicFn)
  | string (f : StringFn)
  | table (f : TableFn)
  | math (f : MathFn)
  | utf8 (f : Utf8Fn)
  | os (f : OsFn)
  | io (f : IoFn)
  | coroutine (f : CoroutineFn)
  | host (f : HostFn)
  | matches_ (text pattern : ByteArray) (cell : Nat)

/-- The names under which the functions of the context are bound. -/
def Utility.name : Utility → String
  | .chunkText => "chunk_text"
  | .searchContext => "search_context"
  | .countMatches => "count_matches"
  | .extractJson => "extract_json"
  | .extractSections => "extract_sections"
  | .findLine => "find_line"
  | .countLines => "count_lines"
  | .getLine => "get_line"
  | .quoteMatch => "quote_match"

/-- The functions of the context. -/
def Utility.all : List Utility :=
  [.chunkText, .searchContext, .countMatches, .extractJson, .extractSections, .findLine, .countLines,
   .getLine, .quoteMatch]

/-- The names under which the functions that ask the host are bound. -/
def Callback.name : Callback → String
  | .llmQuery => "llm_query"
  | .rlmQuery => "rlm_query"
  | .batchLlmQuery => "batch_llm_query"

/-- The functions that ask the host. -/
def Callback.all : List Callback :=
  [.llmQuery, .rlmQuery, .batchLlmQuery]

end LuaSession.Lua
