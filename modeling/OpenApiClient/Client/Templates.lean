set_option autoImplicit false

namespace OpenApiClient.Templates

def primitivesLines : List String :=
  ["\"\"\"Примитивные типы, на которые отображаются форматы OpenAPI\"\"\"",
    "",
    "from typing import Annotated",
    "",
    "from pydantic import Field, PlainSerializer, SecretStr",
    "",
    "Base64Uuid = Annotated[str, Field(min_length=1)]",
    "",
    "Int32 = Annotated[int, Field(ge=-(2**31), le=2**31 - 1)]",
    "Int64 = Annotated[int, Field(ge=-(2**63), le=2**63 - 1)]",
    "",
    "Float32 = float",
    "Float64 = float",
    "",
    "# Значение скрыто в repr, но уходит на сервер как есть",
    "SecureString = Annotated[",
    "    SecretStr,",
    "    PlainSerializer(lambda value: value.get_secret_value(), " ++
      "return_type=str, when_used=\"json\"),",
    "]",
    "",
    "__all__ = [\"Base64Uuid\", \"Int32\", \"Int64\", \"Float32\", \"Float64\", \"SecureString\"]"]

def clientsLines (userAgent : String) : List String :=
  ["import logging",
    "from typing import Any, Dict, List, Mapping, Optional, Tuple",
    "",
    "import httpx",
    "import pydantic_core",
    "from pydantic import BaseModel",
    "",
    "logger = logging.getLogger(__name__)",
    "",
    "DEFAULT_USER_AGENT = " ++ userAgent,
    "",
    "",
    "def default_config(",
    "    timeout: Optional[float] = None,",
    "    user_agent: Optional[str] = None,",
    "    default_headers: Optional[Mapping[str, str]] = None,",
    ") -> httpx.AsyncClient:",
    "    \"\"\"HTTP клиент с User-Agent и таймаутом соединения (по умолчанию 10 секунд)\"\"\"",
    "    headers = dict(default_headers or \x7b\x7d)",
    "    headers[\"User-Agent\"] = user_agent or DEFAULT_USER_AGENT",
    "",
    "    return httpx.AsyncClient(",
    "        timeout=httpx.Timeout(None, connect=timeout if timeout is not None else 10.0),",
    "        headers=headers,",
    "    )",
    "",
    "",
    "def _query_value(value: Any) -> str:",
    "    if isinstance(value, bool):",
    "        return \"true\" if value else \"false\"",
    "    return str(value)",
    "",
    "",
    "class RequestBuilder:",
    "    \"\"\"Запрос к API: query параметры, тело и отправка\"\"\"",
    "",
    "    def __init__(self, client: httpx.AsyncClient, method: str, url: httpx.URL):",
    "        self.client = client",
    "        self.method = method",
    "        self.url = url",
    "",
    "        self.params: List[Tuple[str, str]] = []",
    "        self.headers: Dict[str, str] = \x7b\x7d",
    "        self.content: Optional[bytes] = None",
    "        self.data: Optional[Dict[str, Any]] = None",
    "        self.files: Optional[Dict[str, Any]] = None",
    "",
    "    def query(self, name: str, value: Any) -> \"RequestBuilder\":",
    "        values = value if isinstance(value, (list, tuple)) else [value]",
    "        for item in values:",
    "            self.params.append((name, _query_value(item)))",
    "        return self",
    "",
    "    def json(self, payload: Any) -> \"RequestBuilder\":",
    "        self.content = pydantic_core.to_json(payload, by_alias=True)",
    "        self.headers[\"Content-Type\"] = \"application/json\"",
    "        return self",
    "",
    "    def form(self, payload: Any) -> \"RequestBuilder\":",
    "        if isinstance(payload, BaseModel):",
    "            payload = payload.model_dump(by_alias=True, exclude_none=True)",
    "",
    "        self.data = \x7b\x7d",
    "        self.files = \x7b\x7d",
    "        for key, value in dict(payload).items():",
    "            if isinstance(value, bytes):",
    "                self.files[key] = (key, value)",
    "            else:",
    "                self.data[key] = value",
    "        return self",
    "",
    "    def body(self, payload: bytes) -> \"RequestBuilder\":",
    "        self.content = payload",
    "        self.headers[\"Content-Type\"] = \"application/octet-stream\"",
    "        return self",
    "",
    "    async def send(self) -> httpx.Response:",
    "        \"\"\"Отправка запроса. Ошибки транспорта и статусы не 2xx пробрасываются\"\"\"",
    "        logger.debug(\"Making %s request to %s\", self.method, self.url)",
    "",
    "        response = await self.client.request(",
    "            self.method,",
    "            self.url,",
    "            params=self.params or None,",
    "            headers=self.headers or None,",
    "            content=self.content,",
    "            data=self.data or None,",
    "            files=self.files or None,",
    "        )",
    "        logger.debug(\"Response status: %s\", response.status_code)",
    "",
    "        response.raise_for_status()",
    "        return response",
    "",
    "",
    "class ApiClient:",
    "    \"\"\"HTTP клиент + базовый URL сервера\"\"\"",
    "",
    "    def __init__(self, client: httpx.AsyncClient, server: str):",
    "        self.client = client",
    "        self.server = httpx.URL(server)",
    "",
    "    def request(self, method: str, endpoint: str) -> RequestBuilder:",
    "        base = httpx.URL(str(self.server).rstrip(\"/\") + \"/\")",
    "        return RequestBuilder(self.client, method, base.join(endpoint.lstrip(\"/\")))",
    "",
    "    @staticmethod",
    "    def builder(base_url: str) -> \"ApiClientBuilder\":",
    "        from .builder import ApiClientBuilder",
    "",
    "        return ApiClientBuilder(base_url)",
    "",
    "    async def aclose(self):",
    "        await self.client.aclose()",
    "",
    "    async def __aenter__(self) -> \"ApiClient\":",
    "        return self",
    "",
    "    async def __aexit__(self, *args):",
    "        await self.aclose()"]

def builderLines : List String :=
  ["from typing import Optional",
    "",
    "import httpx",
    "",
    "from .clients import DEFAULT_USER_AGENT, ApiClient",
    "",
    "",
    "class ApiClientBuilder:",
    "    def __init__(self, base_url: str):",
    "        self._base_url = base_url",
    "        self._timeout: Optional[float] = None",
    "",
    "        # Значения для заголовков",
    "        self._user_agent: Optional[str] = None",
    "        self._bearer_token: Optional[str] = None",
    "",
    "    def base_url(self, base_url: str) -> \"ApiClientBuilder\":",
    "        \"\"\"Override the base_url for the ApiClient.\"\"\"",
    "        self._base_url = base_url",
    "        return self",
    "",
    "    def timeout(self, timeout: Optional[float]) -> \"ApiClientBuilder\":",
    "        \"\"\"Change the timeout for the ApiClient.\"\"\"",
    "        self._timeout = timeout",
    "        return self",
    "",
    "    def user_agent(self, user_agent: Optional[str]) -> \"ApiClientBuilder\":",
    "        \"\"\"Override the user agent for the ApiClient.\"\"\"",
    "        self._user_agent = user_agent",
    "        return self",
    "",
    "    def bearer_token(self, bearer_token: Optional[str]) -> \"ApiClientBuilder\":",
    "        \"\"\"Set an authentication token for the ApiClient.\"\"\"",
    "        self._bearer_token = bearer_token",
    "        return self",
    "",
    "    def build_client(self) -> httpx.AsyncClient:",
    "        headers = \x7b\"User-Agent\": self._user_agent or DEFAULT_USER_AGENT\x7d",
    "",
    "        if self._bearer_token:",
    "            headers[\"Authorization\"] = f\"Bearer \x7bself._bearer_token\x7d\"",
    "",
    "        return httpx.AsyncClient(",
    "            timeout=httpx.Timeout(",
    "                None, connect=self._timeout if self._timeout is not None else 5.0",
    "            ),",
    "            headers=headers,",
    "        )",
    "",
    "    def build(self) -> ApiClient:",
    "        \"\"\"Build the ApiClient.\"\"\"",
    "        return ApiClient(self.build_client(), self._base_url)"]

def ofLines (lines : List String) : String := String.join (lines.map fun line => line ++ "\n")

def primitives : String := ofLines primitivesLines

def clients (userAgent : String) : String := ofLines (clientsLines userAgent)

def builder : String := ofLines builderLines

end OpenApiClient.Templates
