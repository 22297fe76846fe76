import Microblog.Content.Post
import Microblog.Content.Comment
import Microblog.Refusal
import Microblog.Text.Blank

/-!
# Drafts

What a client sends to create or change posts and comments. Titles and contents
must not be blank and have a greatest number of characters.
-/

namespace Microblog.Content

/-- Whether a title keeps its bounds. -/
def checkTitle (title : String) : Except Refusal Unit :=
  if Text.allBlank title ∨ 100 < title.length then
    .error (.validation "title is required and at most 100 characters")
  else .ok ()

/-- Whether the content of a post or comment keeps its bounds. -/
def checkContent (content : String) : Except Refusal Unit :=
  if Text.allBlank content ∨ 1000 < content.length then
    .error (.validation "content is required and at most 1000 characters")
  else .ok ()

/-- What is sent to create a post. -/
structure PostDraft where
  title : String
  content : String
  tags : List String
  deriving DecidableEq, Repr

namespace PostDraft

open Json in
instance : Shaped PostDraft where
  shape := .record "CreatePostRequest" <|
    .cons "title" .required .string <|
    .cons "content" .required .string <|
    .cons "tags" .defaulted (.list .string) .nil
  toVal d := (d.title, d.content, d.tags, ())
  ofVal | (title, content, tags, ()) => ⟨title, content, tags⟩

def check (d : PostDraft) : Except Refusal Unit := do
  checkTitle d.title
  checkContent d.content

/-- The post that a draft of a user becomes. -/
def toNewPost (d : PostDraft) (author : Int64) : NewPost := ⟨author, d.title, d.content, d.tags⟩

end PostDraft

/-- What is sent to change a post: a new value for each field that is to change, and the version
that the client has seen. -/
structure PostPatch where
  title : Option String
  content : Option String
  tags : Option (List String)
  version : Option Int32
  deriving DecidableEq, Repr

namespace PostPatch

open Json in
instance : Shaped PostPatch where
  shape := .record "UpdatePostRequest" <|
    .cons "title" .optional (.maybe .string) <|
    .cons "content" .optional (.maybe .string) <|
    .cons "tags" .optional (.maybe (.list .string)) <|
    .cons "version" .optional (.maybe .int32) .nil
  toVal p := (p.title, p.content, p.tags, p.version, ())
  ofVal | (title, content, tags, version, ()) => ⟨title, content, tags, version⟩

def check (p : PostPatch) : Except Refusal Unit := do
  p.title.forM checkTitle
  p.content.forM checkContent

/-- The post with the fields changed. -/
def apply (p : PostPatch) (post : Post) : Post :=
  { post with
    title := p.title.getD post.title
    content := p.content.getD post.content
    tags := p.tags.getD post.tags
    version := p.version.getD post.version }

end PostPatch

/-- What is sent to create or change a comment. -/
structure CommentDraft where
  content : String
  deriving DecidableEq, Repr

namespace CommentDraft

open Json in
instance : Shaped CommentDraft where
  shape := .record "CommentRequest" (.cons "content" .required .string .nil)
  toVal d := (d.content, ())
  ofVal | (content, ()) => ⟨content⟩

def check (d : CommentDraft) : Except Refusal Unit := checkContent d.content

end CommentDraft

end Microblog.Content
