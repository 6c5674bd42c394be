import ComponentMarkup.Asset.Bundle
import ComponentMarkup.Attribute
import ComponentMarkup.Cascade
import ComponentMarkup.Compiler
import ComponentMarkup.Component.Definition
import ComponentMarkup.Component.Registry
import ComponentMarkup.Directive
import ComponentMarkup.Entries
import ComponentMarkup.Error
import ComponentMarkup.Json.Read
import ComponentMarkup.Json.Write
import ComponentMarkup.Markup.Builder
import ComponentMarkup.Markup.Builder.Body
import ComponentMarkup.Markup.Builder.Head
import ComponentMarkup.Markup.Builder.Table
import ComponentMarkup.Markup.Draft
import ComponentMarkup.Markup.Node
import ComponentMarkup.Markup.Reference
import ComponentMarkup.Markup.Reference.Named
import ComponentMarkup.Markup.Tag
import ComponentMarkup.Markup.Template
import ComponentMarkup.Markup.Token
import ComponentMarkup.Markup.Tree
import ComponentMarkup.Markup.Vocabulary
import ComponentMarkup.Number.Binary
import ComponentMarkup.Number.Decimal
import ComponentMarkup.Number.Text
import ComponentMarkup.Number.Value
import ComponentMarkup.Project.Config
import ComponentMarkup.Project.Discovery
import ComponentMarkup.Project.Glob
import ComponentMarkup.Project.Path
import ComponentMarkup.Project.Resolver
import ComponentMarkup.Project.Store
import ComponentMarkup.Proofs.Asset.Arrangement
import ComponentMarkup.Proofs.Asset.Elevation
import ComponentMarkup.Proofs.Asset.Placement
import ComponentMarkup.Proofs.Attribute.ClassTokens
import ComponentMarkup.Proofs.Attribute.Escaping
import ComponentMarkup.Proofs.Attribute.Merging
import ComponentMarkup.Proofs.Attribute.Privacy
import ComponentMarkup.Proofs.Attribute.Spread
import ComponentMarkup.Proofs.Attribute.StartTag
import ComponentMarkup.Proofs.Cascade
import ComponentMarkup.Proofs.Compiler.Document
import ComponentMarkup.Proofs.Compiler.Halting
import ComponentMarkup.Proofs.Compiler.Run
import ComponentMarkup.Proofs.Component.FailedBuild
import ComponentMarkup.Proofs.Component.History
import ComponentMarkup.Proofs.Component.Supply
import ComponentMarkup.Proofs.Directive.Chain
import ComponentMarkup.Proofs.Directive.Loop
import ComponentMarkup.Proofs.Directive.Schedule
import ComponentMarkup.Proofs.Entries
import ComponentMarkup.Proofs.Markup.Content
import ComponentMarkup.Proofs.Markup.RawText
import ComponentMarkup.Proofs.Markup.SelfClosing
import ComponentMarkup.Proofs.Project.Canonical
import ComponentMarkup.Proofs.Project.Discovery
import ComponentMarkup.Proofs.Project.Reference
import ComponentMarkup.Proofs.Project.Walk
import ComponentMarkup.Proofs.Render.Accounting
import ComponentMarkup.Proofs.Render.Agreement
import ComponentMarkup.Proofs.Render.Calls
import ComponentMarkup.Proofs.Render.Coherence
import ComponentMarkup.Proofs.Render.Delivery
import ComponentMarkup.Proofs.Render.Distribution
import ComponentMarkup.Proofs.Render.Encapsulation
import ComponentMarkup.Proofs.Render.Gathered
import ComponentMarkup.Proofs.Render.Growth
import ComponentMarkup.Proofs.Render.Host
import ComponentMarkup.Proofs.Render.Ledger
import ComponentMarkup.Proofs.Render.RawMode
import ComponentMarkup.Proofs.Render.Related
import ComponentMarkup.Proofs.Render.RootElement
import ComponentMarkup.Proofs.Render.ScopeClass
import ComponentMarkup.Proofs.Render.Termination
import ComponentMarkup.Proofs.Render.Triple
import ComponentMarkup.Proofs.Render.Written
import ComponentMarkup.Proofs.Script.Binding
import ComponentMarkup.Proofs.Script.Demand
import ComponentMarkup.Proofs.Script.Dependence
import ComponentMarkup.Proofs.Script.Destructuring
import ComponentMarkup.Proofs.Script.Enclosure
import ComponentMarkup.Proofs.Script.Grammar
import ComponentMarkup.Proofs.Script.Interface
import ComponentMarkup.Proofs.Script.Parameters
import ComponentMarkup.Proofs.Script.Prefetch
import ComponentMarkup.Proofs.Script.ShortCircuit
import ComponentMarkup.Proofs.Script.TopLevel
import ComponentMarkup.Proofs.Style.ClassSelector
import ComponentMarkup.Proofs.Style.Compound
import ComponentMarkup.Proofs.Style.Confinement
import ComponentMarkup.Proofs.Style.HostArguments
import ComponentMarkup.Proofs.Style.Lexing
import ComponentMarkup.Proofs.Style.Outline
import ComponentMarkup.Proofs.Style.PlainName
import ComponentMarkup.Proofs.Style.ScopedSelector
import ComponentMarkup.Proofs.Text.Parts
import ComponentMarkup.Proofs.Usage.Log
import ComponentMarkup.Proofs.Usage.Nearest
import ComponentMarkup.Proofs.Usage.Order
import ComponentMarkup.Proofs.Usage.Reach
import ComponentMarkup.Proofs.Usage.Recording
import ComponentMarkup.Proofs.Usage.Search
import ComponentMarkup.Render.Context
import ComponentMarkup.Render.Output
import ComponentMarkup.Render.Verbatim
import ComponentMarkup.Render.Walk
import ComponentMarkup.Script.Builtins
import ComponentMarkup.Script.Cursor
import ComponentMarkup.Script.Evaluate
import ComponentMarkup.Script.Failure
import ComponentMarkup.Script.Grammar
import ComponentMarkup.Script.Grammar.Expression
import ComponentMarkup.Script.Grammar.Function
import ComponentMarkup.Script.Grammar.Rules
import ComponentMarkup.Script.Grammar.Statement
import ComponentMarkup.Script.Name
import ComponentMarkup.Script.Operators
import ComponentMarkup.Script.Syntax
import ComponentMarkup.Script.Token
import ComponentMarkup.Style.Calculation
import ComponentMarkup.Style.Color
import ComponentMarkup.Style.ColorName
import ComponentMarkup.Style.Declaration
import ComponentMarkup.Style.FontFace
import ComponentMarkup.Style.Import
import ComponentMarkup.Style.Keyframes
import ComponentMarkup.Style.Numeral
import ComponentMarkup.Style.Page
import ComponentMarkup.Style.Part
import ComponentMarkup.Style.Property
import ComponentMarkup.Style.Query.Condition
import ComponentMarkup.Style.Query.Container
import ComponentMarkup.Style.Query.Feature
import ComponentMarkup.Style.Query.Media
import ComponentMarkup.Style.Query.Supports
import ComponentMarkup.Style.Raw
import ComponentMarkup.Style.Reader
import ComponentMarkup.Style.Registration
import ComponentMarkup.Style.Rule
import ComponentMarkup.Style.Scope
import ComponentMarkup.Style.ScopeId
import ComponentMarkup.Style.Selector
import ComponentMarkup.Style.Selector.Name
import ComponentMarkup.Style.Selector.Read
import ComponentMarkup.Style.Sheet
import ComponentMarkup.Style.Text
import ComponentMarkup.Style.Token
import ComponentMarkup.Style.Value.Box
import ComponentMarkup.Style.Value.Font
import ComponentMarkup.Style.Value.Grid
import ComponentMarkup.Style.Value.Image
import ComponentMarkup.Style.Value.Measure
import ComponentMarkup.Style.Value.Motion
import ComponentMarkup.Text.Blank
import ComponentMarkup.Text.Case
import ComponentMarkup.Text.CharSet
import ComponentMarkup.Text.Digest
import ComponentMarkup.Text.Search
import ComponentMarkup.Text.Word
import ComponentMarkup.Transform
import ComponentMarkup.Usage.Graph
import ComponentMarkup.Usage.Order
import ComponentMarkup.Value
