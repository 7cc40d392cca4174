import Mathlib.Data.List.DropRight
import Mathlib.Data.List.Infix
import TaskHive.Wire.Text

namespace TaskHive.Worker

open TaskHive.Wire

/-! # `function_lib.cpp`

Each exported function computes a response from its parameters.  What the
functions take from the C++ library, from JSON and from the machine they run on
is a parameter. -/

/-- A `std::map` of strings: entries in the order of their keys. -/
abbrev Params := List (Bytes × Bytes)

def Params.insert (key value : Bytes) : Params → Params
  | [] => [(key, value)]
  | (other, stored) :: rest =>
      if key < other then (key, value) :: (other, stored) :: rest
      else if key = other then (key, value) :: rest
      else (other, stored) :: Params.insert key value rest

/-- `params[name]`: a missing entry reads as the empty string. -/
def Params.get (params : Params) (name : String) : Bytes := (params.lookup (utf8 name)).getD []

inductive JsonScalar where
  | string (text : Bytes)
  | bool (value : Bool)
deriving DecidableEq

/-- The routines that the functions call.  JSON text holds no zero byte, since
control characters are escaped. -/
structure Support (R : Type) where
  stod : Bytes → Option R
  toString : R → Bytes
  add : R → R → R
  mul : R → R → R
  parseJsonParams : Bytes → Params
  writeString : List (Bytes × JsonScalar) → Bytes
  zero_notMem_writeString : ∀ fields, (0 : UInt8) ∉ writeString fields

/-- The state of the machine at the time of a call. -/
structure World where
  readFile : Bytes → Option Bytes
  canWrite : Bytes → Bool
  popen : Bytes → Option Bytes
  system : Bytes → Int

structure Response where
  success : Bool
  message : Bytes
  data : Bytes := []

inductive LibraryFunction where
  | reverseString
  | addNumbers
  | multiplyNumbers
  | readFileContent
  | writeFileContent
  | getSystemInfo
  | processData
  | filterData
  | pingHost
  | checkPort
deriving DecidableEq, Repr

def reverseString (params : Params) : Response :=
  { success := true, message := utf8 "字符串反转成功", data := (params.get "text").reverse }

section Functions

variable {R : Type} (support : Support R) (world : World)

/-- A text that `std::stod` rejects makes it throw. -/
def arithmetic (operation : R → R → R) (done failed : String) (params : Params) : Response :=
  match support.stod (params.get "a"), support.stod (params.get "b") with
  | some left, some right =>
      { success := true, message := utf8 done, data := support.toString (operation left right) }
  | _, _ => { success := false, message := utf8 failed }

def addNumbers (params : Params) : Response :=
  arithmetic support support.add "数字相加成功" "数字相加失败" params

def multiplyNumbers (params : Params) : Response :=
  arithmetic support support.mul "数字相乘成功" "数字相乘失败" params

def readFileContent (params : Params) : Response :=
  match world.readFile (params.get "filename") with
  | some content => { success := true, message := utf8 "文件读取成功", data := content }
  | none => { success := false, message := utf8 "无法打开文件: " ++ params.get "filename" }

def writeFileContent (params : Params) : Response :=
  if world.canWrite (params.get "filename") then { success := true, message := utf8 "文件写入成功" }
  else { success := false, message := utf8 "无法写入文件: " ++ params.get "filename" }

def getSystemInfo : Response :=
  { success := true, message := utf8 "系统信息获取成功"
    data := support.writeString [(utf8 "compiler", .string (utf8 "GCC")),
      (utf8 "cxx_standard", .string (utf8 "C++17")), (utf8 "platform", .string (utf8 "Linux"))] }

end Functions

def toUpper (byte : UInt8) : UInt8 := if 97 ≤ byte ∧ byte ≤ 122 then byte - 32 else byte

def toLower (byte : UInt8) : UInt8 := if 65 ≤ byte ∧ byte ≤ 90 then byte + 32 else byte

/-- The bytes of `" \t\n\r"`. -/
def isBlank (byte : UInt8) : Bool := byte == 32 || byte == 9 || byte == 10 || byte == 13

def trim (text : Bytes) : Bytes := (text.dropWhile isBlank).rdropWhile isBlank

def processData (params : Params) : Response :=
  let data := params.get "data"
  let operation := params.get "operation"
  let processed :=
    if operation = utf8 "uppercase" then data.map toUpper
    else if operation = utf8 "lowercase" then data.map toLower
    else if operation = utf8 "trim" then trim data
    else data
  { success := true, message := utf8 "数据处理成功", data := processed }

/-- An unknown filter type matches nothing. -/
def filterMatches (kind value data : Bytes) : Bool :=
  if kind = utf8 "contains" then decide (value <:+: data)
  else if kind = utf8 "starts_with" then data.take value.length == value
  else if kind = utf8 "ends_with" then
    decide (value.length ≤ data.length) && data.drop (data.length - value.length) == value
  else false

def filterData (params : Params) : Response :=
  let data := params.get "data"
  let filtered := if filterMatches (params.get "filter_type") (params.get "filter_value") data then data else []
  if filtered = [] then { success := false, message := utf8 "数据不匹配过滤条件" }
  else { success := true, message := utf8 "数据过滤成功", data := filtered }

section Functions

variable {R : Type} (support : Support R) (world : World)

def pingHost (params : Params) : Response :=
  match world.popen (utf8 "ping -c 1 " ++ params.get "host") with
  | some output =>
      if utf8 "1 packets transmitted, 1 received" <:+: output then
        { success := true, message := utf8 "Ping成功", data := output }
      else { success := false, message := utf8 "Ping失败", data := output }
  | none => { success := false, message := utf8 "无法执行ping命令" }

def checkPort (params : Params) : Response :=
  let host := params.get "host"
  let port := params.get "port"
  let place := utf8 "端口 " ++ port ++ utf8 " 在 " ++ host
  if world.system (utf8 "nc -z " ++ host ++ utf8 " " ++ port) = 0 then
    { success := true, message := utf8 "端口检查成功", data := place ++ utf8 " 上开放" }
  else { success := false, message := utf8 "端口检查失败", data := place ++ utf8 " 上关闭" }

/-- Members are written in the order of their names, and empty data is left
out. -/
def createJsonResponse (response : Response) : Bytes :=
  let data := if response.data = [] then [] else [(utf8 "data", JsonScalar.string response.data)]
  support.writeString
    (data ++ [(utf8 "message", .string response.message), (utf8 "success", .bool response.success)])

/-- What a library function responds to its parameters. -/
def LibraryFunction.response (function : LibraryFunction) (params : Params) : Response :=
  match function with
  | .reverseString => Worker.reverseString params
  | .addNumbers => Worker.addNumbers support params
  | .multiplyNumbers => Worker.multiplyNumbers support params
  | .readFileContent => Worker.readFileContent world params
  | .writeFileContent => Worker.writeFileContent world params
  | .getSystemInfo => Worker.getSystemInfo support
  | .processData => Worker.processData params
  | .filterData => Worker.filterData params
  | .pingHost => Worker.pingHost world params
  | .checkPort => Worker.checkPort world params

/-- The text that a library function assigns to its static string. -/
def LibraryFunction.respond (function : LibraryFunction) (input : Bytes) : Bytes :=
  createJsonResponse support (function.response support world (support.parseJsonParams input))

/-- `exec_func` hands the parameters over as a JSON object. -/
def paramJson (params : Params) : Bytes :=
  support.writeString (params.map fun entry => (entry.1, .string entry.2))

theorem zero_notMem_respond (function : LibraryFunction) (input : Bytes) :
    (0 : UInt8) ∉ function.respond support world input :=
  support.zero_notMem_writeString _

end Functions

end TaskHive.Worker
