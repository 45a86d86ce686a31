import PackageIndex.Php.Chart
import PackageIndex.Php.Grammar

/-!
# The outline of a PHP file

The namespaces and declared types of a source file, found anywhere in it. A type declared inside
another one follows it in the outline; a class without a name has no place there, but what is
declared inside it has.
-/
namespace PackageIndex.Php

namespace Tree

def mark : Tree Mark → Mark
  | node mark _ _ _ => mark

def children : Tree Mark → List (Tree Mark)
  | node _ _ _ children => children

def child? (mark : Mark) (children : List (Tree Mark)) : Option (Tree Mark) :=
  children.find? fun child => child.mark = mark

variable (tokens : Array Token)

def firstLine : Tree Mark → Nat
  | node _ first _ _ => (tokens[first]?.map fun token => token.first.line).getD 1

def lastLine : Tree Mark → Nat
  | node _ _ last _ => (tokens[last - 1]?.map fun token => token.last.line).getD 1

/-- The text of a part as it was written, gaps between its tokens included. -/
def text : Tree Mark → String
  | node _ first last _ =>
    match (tokens.extract first last).toList with
    | [] => ""
    | token :: rest => token.text ++ String.join (rest.map fun token => token.gap ++ token.text)

/-- The text of the first name among the children. -/
def nameIn? (children : List (Tree Mark)) : Option String :=
  (child? .name children).map (text tokens)

/-- What the first body among the children holds. -/
def bodyIn (children : List (Tree Mark)) : List (Tree Mark) :=
  ((child? .body children).map Tree.children).getD []

/-- A method has a name. -/
def method? (tree : Tree Mark) : Option MethodDeclaration :=
  if tree.mark = .method then
    (nameIn? tokens tree.children).map fun name =>
      ⟨name, tree.firstLine tokens, tree.lastLine tokens⟩
  else none

/-- The methods that stand directly in the body of a type. -/
def methods (children : List (Tree Mark)) : List MethodDeclaration :=
  (bodyIn children).filterMap (method? tokens)

/-- The type that a part declares; it has a name. -/
def declaration? (tree : Tree Mark) : Option TypeDeclaration :=
  match tree.mark with
  | .type kind =>
    (nameIn? tokens tree.children).map fun name =>
      ⟨kind, name, methods tokens tree.children, tree.firstLine tokens, tree.lastLine tokens⟩
  | _ => none

/-- The name of a namespace; the one that holds what has no namespace is written without a name. -/
def spaceName (children : List (Tree Mark)) : String := (nameIn? tokens children).getD ""

mutual
def outline : Tree Mark → List SourceNode
  | node .space _ _ children => [.inNamespace (spaceName tokens children) (bodyOutline children)]
  | node (.type kind) first last children =>
    ((declaration? tokens (node (.type kind) first last children)).map .declared).toList ++
      outlines children
  | node _ _ _ children => outlines children
def outlines : List (Tree Mark) → List SourceNode
  | [] => []
  | tree :: rest => outline tree ++ outlines rest
/-- What stands in the first body among the children. -/
def bodyOutline : List (Tree Mark) → List SourceNode
  | [] => []
  | node .body _ _ children :: _ => outlines children
  | node .space _ _ _ :: rest | node (.type _) _ _ _ :: rest | node .method _ _ _ :: rest
  | node .name _ _ _ :: rest | node .group _ _ _ :: rest => bodyOutline rest
end

end Tree

/-- The outline of a source file. A file without code is empty. -/
def parse (source : String) : Except ParseFault (List SourceNode) :=
  match Reader.ofSource? source with
  | none => .ok []
  | some reader =>
    match Chart.read Grammar.network reader with
    | .ok outcome => .ok (Tree.outlines outcome.tokens outcome.trees)
    | .error place => .error ⟨place.line, place.column, "unexpected input"⟩

end PackageIndex.Php
