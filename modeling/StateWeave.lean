import StateWeave.Bench
import StateWeave.Class.Analysis
import StateWeave.Class.Annot
import StateWeave.Class.Basic
import StateWeave.Class.Binding
import StateWeave.Class.Callback
import StateWeave.Class.Inventory
import StateWeave.Class.Literal
import StateWeave.Class.Marker
import StateWeave.Class.Member
import StateWeave.Class.Read
import StateWeave.Class.Signature
import StateWeave.Class.Tree
import StateWeave.Config
import StateWeave.Copy.Block
import StateWeave.Copy.ClassScope
import StateWeave.Copy.OwnerUse
import StateWeave.Copy.Residue
import StateWeave.Dispatch.AtomicRef
import StateWeave.Dispatch.Channel
import StateWeave.Dispatch.ChannelName
import StateWeave.Dispatch.Registry
import StateWeave.Fault
import StateWeave.Import.Arguments
import StateWeave.Import.Attribute
import StateWeave.Import.Collection
import StateWeave.Import.Evaluation
import StateWeave.Import.Execution
import StateWeave.Import.Fault
import StateWeave.Import.Hook
import StateWeave.Import.Loading
import StateWeave.Import.Member
import StateWeave.Import.Operation
import StateWeave.Import.Operator
import StateWeave.Import.Pausing
import StateWeave.Import.Request
import StateWeave.Import.Scope
import StateWeave.Import.Session
import StateWeave.Import.Standard
import StateWeave.Import.Store
import StateWeave.Import.Target
import StateWeave.Import.Thing
import StateWeave.Log
import StateWeave.Object.AttributeFault
import StateWeave.Object.Builtin
import StateWeave.Object.ClassFault
import StateWeave.Object.Event
import StateWeave.Object.Fact
import StateWeave.Object.Hierarchy
import StateWeave.Object.Layout
import StateWeave.Object.Linearization
import StateWeave.Object.OperationFault
import StateWeave.Object.TypingFault
import StateWeave.Object.Value
import StateWeave.Proofs.Addition
import StateWeave.Proofs.Arguments
import StateWeave.Proofs.Assignment
import StateWeave.Proofs.Bystanders
import StateWeave.Proofs.CallBinding
import StateWeave.Proofs.Capture
import StateWeave.Proofs.CapturedReads
import StateWeave.Proofs.Changes
import StateWeave.Proofs.Classes
import StateWeave.Proofs.Composition
import StateWeave.Proofs.Conduct
import StateWeave.Proofs.Contention
import StateWeave.Proofs.Copied
import StateWeave.Proofs.CopyLegal
import StateWeave.Proofs.Cycles
import StateWeave.Proofs.Enrolment
import StateWeave.Proofs.EnumClosure
import StateWeave.Proofs.Enumeration
import StateWeave.Proofs.Evaluating
import StateWeave.Proofs.Executing
import StateWeave.Proofs.Fields
import StateWeave.Proofs.Frame
import StateWeave.Proofs.Grafting
import StateWeave.Proofs.Hooks
import StateWeave.Proofs.Importing
import StateWeave.Proofs.Ledger
import StateWeave.Proofs.Legal
import StateWeave.Proofs.Logged
import StateWeave.Proofs.Manner
import StateWeave.Proofs.Methods
import StateWeave.Proofs.Naming
import StateWeave.Proofs.NestedScopes
import StateWeave.Proofs.Occasions
import StateWeave.Proofs.OwnerPath
import StateWeave.Proofs.OwnerWrites
import StateWeave.Proofs.Packages
import StateWeave.Proofs.Parts
import StateWeave.Proofs.Places
import StateWeave.Proofs.Positions
import StateWeave.Proofs.Preorder
import StateWeave.Proofs.Pruned
import StateWeave.Proofs.Quotable
import StateWeave.Proofs.Reading
import StateWeave.Proofs.Rebinding
import StateWeave.Proofs.Redirected
import StateWeave.Proofs.References
import StateWeave.Proofs.Refusal
import StateWeave.Proofs.Registrations
import StateWeave.Proofs.Reloads
import StateWeave.Proofs.Reset
import StateWeave.Proofs.Restore
import StateWeave.Proofs.Retained
import StateWeave.Proofs.Running
import StateWeave.Proofs.Scoping
import StateWeave.Proofs.Scripts
import StateWeave.Proofs.Searching
import StateWeave.Proofs.Settings
import StateWeave.Proofs.SinglePass
import StateWeave.Proofs.StaticStore
import StateWeave.Proofs.Steady
import StateWeave.Proofs.StorageNames
import StateWeave.Proofs.Straight
import StateWeave.Proofs.Subscriptions
import StateWeave.Proofs.Tables
import StateWeave.Proofs.Targets
import StateWeave.Proofs.Tracking
import StateWeave.Proofs.Unassigned
import StateWeave.Proofs.Unloading
import StateWeave.Proofs.Uses
import StateWeave.Proofs.Wrappers
import StateWeave.Proofs.Written
import StateWeave.Reload.Cycle
import StateWeave.Reload.Phase
import StateWeave.Reload.Site
import StateWeave.ReloadUnit.Basic
import StateWeave.ReloadUnit.Qualify
import StateWeave.ReloadUnit.Render
import StateWeave.Script.Answer
import StateWeave.Script.Attribute
import StateWeave.Script.Calling
import StateWeave.Script.ClassStatement
import StateWeave.Script.Description
import StateWeave.Script.Dispatching
import StateWeave.Script.Equality
import StateWeave.Script.Evaluation
import StateWeave.Script.Failure
import StateWeave.Script.Plain
import StateWeave.Script.Raise
import StateWeave.Script.Registration
import StateWeave.Script.Run
import StateWeave.Script.Step
import StateWeave.Script.Subscriber
import StateWeave.Script.Subscription
import StateWeave.Script.World
import StateWeave.Table
import StateWeave.Text.Cut
import StateWeave.Text.Decimal
import StateWeave.Text.Dotted
import StateWeave.Text.Expression
import StateWeave.Text.Identifier
import StateWeave.Text.Literal
import StateWeave.Text.Printable
import StateWeave.Text.Private
import StateWeave.Text.Quoted
import StateWeave.Text.Token
import StateWeave.Text.Unwritable
import StateWeave.Tree.Constant
import StateWeave.Tree.Expr
import StateWeave.Tree.Occurrence
import StateWeave.Tree.Source
import StateWeave.Tree.Stmt
import StateWeave.Weave
import StateWeave.Zero
