import ProviderRouting.Text.Quoted

/-!
# Errors

`RouterError` names why an operation on rules was refused; `StoreError` why the store could not
do what it was asked. Each has one message function, and the router errors fall into four
classes: mistakes a user can correct, violations of the rule policy, a missing provider that a
later attempt may find, and everything else.

`Failure` adds the one way an operation stops without an error of its own: a priority that would
step past the largest 32-bit integer.
-/

namespace ProviderRouting

/-- What was attempted on a locked default rule. -/
inductive LockedAction where
  | editPattern
  | editScope
  | delete
  | duplicate
  | reorder
  | createDefault
  deriving Repr, DecidableEq

def LockedAction.text : LockedAction → String
  | .editPattern => "修改匹配模式"
  | .editScope => "修改分组或类型"
  | .delete => "删除"
  | .duplicate => "复制"
  | .reorder => "调整顺序"
  | .createDefault => "重复创建"

/-- Why the store failed. -/
inductive StoreError where
  | database (msg : String)
  | io (msg : String)
  | json (msg : String)
  | lockPoisoned
  | missingRecord (id : String)
  | backend (msg : String)
  deriving Repr, DecidableEq

def StoreError.message : StoreError → String
  | .database msg => "数据库错误: " ++ msg
  | .io msg => "IO 错误: " ++ msg
  | .json msg => "JSON 错误: " ++ msg
  | .lockPoisoned => "数据库连接锁已损坏"
  | .missingRecord id => "记录不存在: " ++ id
  | .backend msg => "存储后端错误: " ++ msg

/-- Why an operation on rules was refused. -/
inductive RouterError where
  | notFound (id : String)
  | locked (ruleId : String) (action : LockedAction)
  | namespaceCollision (pattern : String)
  | invalidPattern (pattern : String)
  | unknownProvider (id : String)
  | noProviderAvailable
  | storage (e : StoreError)
  deriving Repr, DecidableEq

def RouterError.message : RouterError → String
  | .notFound id => "路由规则不存在: " ++ id
  | .locked id action => "默认规则不可" ++ action.text ++ ": " ++ id
  | .namespaceCollision p => "路径模式占用了保留命名空间: " ++ p
  | .invalidPattern p => "无效的匹配模式: " ++ Text.quoted p
  | .unknownProvider id => "Provider 不存在: " ++ id
  | .noProviderAvailable => "没有可用的 Provider"
  | .storage e => "存储错误: " ++ e.message

def RouterError.code : RouterError → String
  | .notFound _ => "not_found"
  | .locked _ _ => "locked_rule_violation"
  | .namespaceCollision _ => "namespace_collision"
  | .invalidPattern _ => "invalid_pattern"
  | .unknownProvider _ => "unknown_provider"
  | .noProviderAvailable => "no_provider_available"
  | .storage _ => "storage_error"

def RouterError.errorClass : RouterError → String
  | .notFound _ | .unknownProvider _ | .invalidPattern _ => "user_correctable"
  | .locked _ _ | .namespaceCollision _ => "policy_violation"
  | .noProviderAvailable => "recoverable"
  | .storage _ => "other"

/-- How an operation stops: refused with an error, or a priority past the 32-bit range. -/
inductive Failure where
  | error (e : RouterError)
  | overflow
  deriving Repr, DecidableEq

def overflowMessage : String := "attempt to add with overflow"

instance : Coe RouterError Failure := ⟨Failure.error⟩

end ProviderRouting
