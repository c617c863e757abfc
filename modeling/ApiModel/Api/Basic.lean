import ApiModel.Container.OrderedMap
import ApiModel.Schema.Basic

/-! An API as its document describes it: named schemas and operations, each operation with its
parameters, its body and its responses. -/
namespace ApiModel.Api

inductive Method where
  | get
  | put
  | post
  | delete
  | options
  | head
  | patch
  | trace
  deriving DecidableEq, Repr

def Method.all : List Method := [get, put, post, delete, options, head, patch, trace]

def Method.word : Method → Text
  | get => "get"
  | put => "put"
  | post => "post"
  | delete => "delete"
  | options => "options"
  | head => "head"
  | patch => "patch"
  | trace => "trace"

inductive Place where
  | query
  | header
  | path
  | cookie
  deriving DecidableEq, Repr

namespace Place

def word : Place → Text
  | query => "query"
  | header => "header"
  | path => "path"
  | cookie => "cookie"

def all : List Place := [query, header, path, cookie]

def of? (v : Value) : Option Place := all.find? fun place => v.isText place.word

end Place

structure Parameter where
  name : Text
  place : Place
  required : Bool
  description : Option Text
  schema : Option Schema

structure Header where
  description : Option Text
  required : Bool
  schema : Option Schema

structure RequestBody where
  required : Bool
  description : Option Text
  contentTypes : List Text
  schema : Option Schema

structure Response where
  status : Text
  description : Option Text
  contentTypes : List Text
  schema : Option Schema
  headers : OrderedMap Header

structure Operation where
  path : Text
  method : Method
  id : Option Text
  summary : Option Text
  description : Option Text
  parameters : List Parameter
  body : Option RequestBody
  responses : List Response

structure Info where
  title : Text
  version : Text
  description : Option Text

structure Server where
  url : Text
  description : Option Text

structure Description where
  info : Info
  servers : List Server
  schemas : OrderedMap Schema
  operations : List Operation
  version : Text

end ApiModel.Api
